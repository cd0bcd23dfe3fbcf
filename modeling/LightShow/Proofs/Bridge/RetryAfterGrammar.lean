import LightShow.Proofs.Bridge.BackoffEscalation
import Mathlib.Data.Nat.Digits.Defs

/-!
# Which `Retry-After` headers name seconds

A header names seconds if, the white space at both its ends aside, it is one or more digits, with at
most one plus sign in front, and the number they spell fits in 64 bits. The grammar is said without
the reader: what is left after trimming is a core that white space neither begins nor ends
(`TrimsTo`), and the number is the sum of its digits by their places (`decimalValue`). Leading zeros
are digits like others, so a number has as many spellings as one likes.

Trimming finds the only core of a text (`trimBlank_eq_iff`), the reader of numerals takes exactly
those of the grammar (`readWord64_eq_some_iff`), and a table of backoffs that is given any other
header does what it does without one.
-/

set_option autoImplicit false

namespace LightShow

/-! ### White space at both ends -/

/-- The text is a core with nothing but white space around it, and white space neither begins nor
ends the core. -/
structure TrimsTo (text core : List Char) : Prop where
  surrounded : ∃ front back, text = front ++ core ++ back ∧ (∀ c ∈ front, isBlank c = true) ∧
    ∀ c ∈ back, isBlank c = true
  head : ∀ c ∈ core.head?, isBlank c = false
  last : ∀ c ∈ core.getLast?, isBlank c = false

theorem isBlank_of_head?_dropWhile {text : List Char} {c : Char}
    (hc : (text.dropWhile isBlank).head? = some c) : isBlank c = false := by
  have hnot := List.head?_dropWhile_not isBlank text
  rwa [hc] at hnot

theorem trimsTo_trimBlank (text : List Char) : TrimsTo text (trimBlank text) where
  surrounded := by
    refine ⟨text.takeWhile isBlank, (text.dropWhile isBlank).rtakeWhile isBlank, ?_, ?_, ?_⟩
    · have hright : trimBlank text ++ (text.dropWhile isBlank).rtakeWhile isBlank =
          text.dropWhile isBlank := List.rdropWhile_append_rtakeWhile
      rw [List.append_assoc, hright, List.takeWhile_append_dropWhile]
    · exact fun c hc ↦ List.mem_takeWhile_imp hc
    · exact fun c hc ↦ List.mem_rtakeWhile_imp hc
  head := by
    intro c hc
    obtain ⟨rest, hrest⟩ := List.rdropWhile_prefix isBlank (text.dropWhile isBlank)
    have hfirst : (text.dropWhile isBlank).head? = some c := by
      rw [← hrest, List.head?_append]
      exact congrArg (Option.or · _) hc
    exact isBlank_of_head?_dropWhile hfirst
  last := by
    intro c hc
    rw [trimBlank, List.getLast?_reverse] at hc
    exact isBlank_of_head?_dropWhile hc

theorem dropWhile_isBlank_append {front core : List Char}
    (hfront : ∀ c ∈ front, isBlank c = true) (hhead : ∀ c ∈ core.head?, isBlank c = false) :
    (front ++ core).dropWhile isBlank = core := by
  rw [List.dropWhile_append_of_pos hfront]
  cases core with
  | nil => rfl
  | cons c rest => exact List.dropWhile_cons_of_neg (by simp [hhead c rfl])

/-- A text has no core but the one that trimming finds. -/
theorem TrimsTo.trimBlank_eq {text core : List Char} (htrims : TrimsTo text core) :
    trimBlank text = core := by
  obtain ⟨front, back, rfl, hfront, hback⟩ := htrims.surrounded
  have hreverse : ∀ c ∈ core.reverse.head?, isBlank c = false := by
    simpa only [List.head?_reverse] using htrims.last
  have hblank : ∀ c ∈ back.reverse, isBlank c = true := by
    simpa only [List.mem_reverse] using hback
  by_cases hcore : core = []
  · subst hcore
    have hnone : ((front ++ [] ++ back).dropWhile isBlank) = [] := by
      rw [List.append_nil, List.dropWhile_eq_nil_iff]
      exact List.forall_mem_append.mpr ⟨hfront, hback⟩
    rw [trimBlank, hnone]
    rfl
  · have hhead : ∀ c ∈ (core ++ back).head?, isBlank c = false := by
      rw [List.head?_append_of_ne_nil _ hcore]
      exact htrims.head
    rw [trimBlank, List.append_assoc, dropWhile_isBlank_append hfront hhead, List.reverse_append,
      dropWhile_isBlank_append hblank hreverse, List.reverse_reverse]

theorem trimBlank_eq_iff {text core : List Char} : trimBlank text = core ↔ TrimsTo text core :=
  ⟨fun hcore ↦ hcore ▸ trimsTo_trimBlank text, TrimsTo.trimBlank_eq⟩

/-! ### Numerals -/

/-- The value of decimal digits, each weighted by its place. -/
def decimalValue (digits : List Char) : ℕ :=
  Nat.ofDigits 10 (digits.reverse.map fun c ↦ c.toNat - '0'.toNat)

/-- The text is one or more digits, with at most one plus sign in front, and spells the number. -/
inductive SpellsNumber : List Char → ℕ → Prop where
  | plain {digits : List Char} (hsome : digits ≠ []) (hdigits : ∀ c ∈ digits, c.isDigit = true) :
      SpellsNumber digits (decimalValue digits)
  | signed {digits : List Char} (hsome : digits ≠ []) (hdigits : ∀ c ∈ digits, c.isDigit = true) :
      SpellsNumber ('+' :: digits) (decimalValue digits)

theorem digitsValue_eq_decimalValue (digits : List Char) :
    digitsValue 0 digits = decimalValue digits := by
  induction digits using List.reverseRecOn with
  | nil => rfl
  | append_singleton digits digit ih =>
    rw [decimalValue, List.reverse_concat, List.map_cons, Nat.ofDigits_cons, ← decimalValue, ← ih,
      digitsValue, List.foldl_concat, ← digitsValue]
    ring

theorem isDecimalDigit_eq_isDigit (c : Char) : isDecimalDigit c = c.isDigit := by
  simp [isDecimalDigit, Char.isDigit, Char.le_def]

/-- A plus sign is no digit, so there is one way to take a text apart. -/
theorem spellsNumber_iff {text : List Char} {number : ℕ} :
    SpellsNumber text number ↔
      let digits := if text.head? = some '+' then text.tail else text
      digits ≠ [] ∧ (∀ c ∈ digits, c.isDigit = true) ∧ decimalValue digits = number := by
  have hplus : '+'.isDigit ≠ true := by decide
  constructor
  · intro hspells
    cases hspells with
    | plain hsome hdigits =>
      have hhead : text.head? ≠ some '+' := fun hhead ↦
        hplus (hdigits '+' (List.mem_of_head? hhead))
      rw [if_neg hhead]
      exact ⟨hsome, hdigits, rfl⟩
    | signed hsome hdigits => exact ⟨hsome, hdigits, rfl⟩
  · split_ifs with hhead
    · obtain ⟨rest, rfl⟩ := List.head?_eq_some_iff.mp hhead
      rintro ⟨hsome, hdigits, rfl⟩
      exact .signed hsome hdigits
    · rintro ⟨hsome, hdigits, rfl⟩
      exact .plain hsome hdigits

theorem readWord64_eq_some_iff {text : List Char} {number : ℕ} :
    readWord64 text = some number ↔ SpellsNumber text number ∧ number < 2 ^ 64 := by
  have hsize : UInt64.size = 2 ^ 64 := rfl
  rw [spellsNumber_iff, readWord64]
  generalize (if text.head? = some '+' then text.tail else text) = digits
  simp only [digitsValue_eq_decimalValue, hsize]
  by_cases hnumeral : digits ≠ [] ∧ ∀ c ∈ digits, c.isDigit = true
  · have htaken : (digits.isEmpty || !digits.all isDecimalDigit) = false := by
      simpa [isDecimalDigit_eq_isDigit] using hnumeral
    rw [htaken, if_neg Bool.false_ne_true, Option.ite_none_right_eq_some, Option.some_inj]
    grind
  · have hrefused : (digits.isEmpty || !digits.all isDecimalDigit) = true := by
      simpa [isDecimalDigit_eq_isDigit, or_iff_not_imp_left] using hnumeral
    rw [hrefused, if_pos rfl]
    grind

/-! ### Headers -/

/-- The header names this number of seconds. -/
def NamesSeconds (header : String) (seconds : ℕ) : Prop :=
  ∃ core, TrimsTo header.toList core ∧ SpellsNumber core seconds ∧ seconds < 2 ^ 64

theorem retryAfterSeconds_eq_some_iff {header : String} {seconds : ℕ} :
    retryAfterSeconds header = some seconds ↔ NamesSeconds header seconds := by
  rw [retryAfterSeconds, readWord64_eq_some_iff, NamesSeconds]
  simp only [← trimBlank_eq_iff, exists_eq_left']

example : ["Wed, 21 Oct 2015 07:28:00 GMT", "-5", "+", "1.5", "1 2", "", " "].all
    fun header ↦ (retryAfterSeconds header).isNone := by decide

theorem retryAfterSeconds_eq_none_iff {header : String} :
    retryAfterSeconds header = none ↔ ∀ seconds, ¬NamesSeconds header seconds := by
  simp only [Option.eq_none_iff_forall_ne_some, ne_eq, retryAfterSeconds_eq_some_iff]

namespace BackoffTable

theorem limit_of_namesSeconds {header : String} {seconds : ℕ}
    (hnames : NamesSeconds header seconds) (table : BackoffTable) (light : String) (now : ℕ) :
    table.duration light (some header) = min (1000 * seconds) (2 ^ 64 - 1) ∧
      table.limit light (some header) now =
        table.insert light ⟨now + millis (min (1000 * seconds) (2 ^ 64 - 1)),
          (table.get? light).bind (·.lastStep)⟩ := by
  have hchoose (lastStep : Option ℕ) :
      Backoff.choose lastStep (some header) = (min (1000 * seconds) (2 ^ 64 - 1), lastStep) := by
    rw [Backoff.choose, Option.bind_some, retryAfterSeconds_eq_some_iff.mpr hnames, mul_comm 1000]
    rfl
  simp only [duration, limit, hchoose, and_self]

/-- Where a header names no seconds, it is as if it were not there. -/
theorem limit_of_not_namesSeconds {header : String}
    (hnames : ∀ seconds, ¬NamesSeconds header seconds) (table : BackoffTable) (light : String)
    (now : ℕ) :
    table.duration light (some header) = table.duration light none ∧
      table.limit light (some header) now = table.limit light none now := by
  have hchoose (lastStep : Option ℕ) :
      Backoff.choose lastStep (some header) = Backoff.choose lastStep none := by
    rw [Backoff.choose, Option.bind_some, retryAfterSeconds_eq_none_iff.mpr hnames]
    rfl
  simp only [duration, limit, hchoose, and_self]

/-- A header that names seconds is seen in a table that knows nothing of the light: no step is
remembered, as there is without a header. -/
theorem limit_empty_ne_of_namesSeconds {header : String} {seconds : ℕ}
    (hnames : NamesSeconds header seconds) (light : String) :
    limit LightTable.empty light (some header) 0 ≠ limit LightTable.empty light none 0 := by
  intro hsame
  have hheaded := (limit_of_namesSeconds hnames LightTable.empty light 0).2
  have hentry := congrArg (fun table ↦ (LightTable.get? table light).bind (·.lastStep))
    (hheaded.symm.trans hsame)
  simp [limit, Backoff.choose] at hentry

/-- A `Retry-After` header is taken as seconds exactly if, white space at both ends aside, it is an
optional plus sign and then one or more digits that spell a number below `2 ^ 64`, and the seconds
are that number: the light is closed for so long, as far as the milliseconds fit in 64 bits, and the
remembered step stays. Every other header has no effect, whatever the table, the light and the
instant, and only such a header has none. -/
theorem retryAfter_taken_iff (header : String) :
    (∀ seconds, retryAfterSeconds header = some seconds ↔ NamesSeconds header seconds) ∧
    (∀ seconds, NamesSeconds header seconds → ∀ (table : BackoffTable) (light : String) (now : ℕ),
      table.duration light (some header) = min (1000 * seconds) (2 ^ 64 - 1) ∧
        table.limit light (some header) now =
          table.insert light ⟨now + millis (min (1000 * seconds) (2 ^ 64 - 1)),
            (table.get? light).bind (·.lastStep)⟩) ∧
    ((∀ (table : BackoffTable) (light : String) (now : ℕ),
      table.duration light (some header) = table.duration light none ∧
        table.limit light (some header) now = table.limit light none now) ↔
      ∀ seconds, ¬NamesSeconds header seconds) := by
  refine ⟨fun seconds ↦ retryAfterSeconds_eq_some_iff, fun seconds ↦ limit_of_namesSeconds, ?_⟩
  constructor
  · intro hsame seconds hnames
    exact limit_empty_ne_of_namesSeconds hnames "" (hsame LightTable.empty "" 0).2
  · exact limit_of_not_namesSeconds

/-- Light `a` has been closed for two seconds before. -/
def closedOnce : BackoffTable :=
  limit (limit LightTable.empty "a" none 0) "a" none (millis 1000)

/-- Seven seconds with a sign, zeros and white space close the light for seven seconds and leave the
step of two; the least number that does not fit in 64 bits escalates to four, as no header does. -/
theorem retryAfter_taken_iff_padded_and_overflowing :
    NamesSeconds " +007\t" 7 ∧
    duration closedOnce "a" (some " +007\t") = 7000 ∧
    (limit closedOnce "a" (some " +007\t") (millis 5000)).get? "a" =
      some ⟨millis 12000, some 2000⟩ ∧
    (∀ seconds, ¬NamesSeconds "18446744073709551616" seconds) ∧
    (limit closedOnce "a" (some "18446744073709551616") (millis 5000)).get? "a" =
      some ⟨millis 9000, some 4000⟩ := by
  obtain ⟨hread, hnamed, -⟩ := retryAfter_taken_iff " +007\t"
  obtain ⟨hoverflow, -, hignored⟩ := retryAfter_taken_iff "18446744073709551616"
  have hseven : NamesSeconds " +007\t" 7 := (hread 7).mp (by decide)
  have hnone : ∀ seconds, ¬NamesSeconds "18446744073709551616" seconds := by
    intro seconds hnames
    have hrefused : retryAfterSeconds "18446744073709551616" = none := by decide
    rw [← hoverflow, hrefused] at hnames
    cases hnames
  obtain ⟨hduration, hlimit⟩ := hnamed 7 hseven closedOnce "a" (millis 5000)
  refine ⟨hseven, hduration, ?_, hnone, ?_⟩
  · rw [hlimit]
    decide
  · rw [(hignored.mpr hnone closedOnce "a" (millis 5000)).2]
    decide

end BackoffTable

end LightShow
