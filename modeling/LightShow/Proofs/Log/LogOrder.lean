import LightShow.Log.Rotation
import Mathlib.Data.List.Lex
import Mathlib.Data.Prod.Lex

/-!
# Which log files are oldest

The name of a log file spells a text that begins with `beatlight`, and it ends in `.log`; it has a
stamp if what stands between is an underscore and a numeral of 64 bits (`IsLogName`, `Stamped`). A
name that spells no text is that of no log file, and a longer numeral is no stamp. Log files are
ordered by their stamps, those without one first, and where the stamps agree, as those of `7` and
`007` do, by the bytes of their names (`Older`). The log files of a directory have one arrangement
in that order, and it does not depend on how the directory is listed (`Arranged.unique`). A rotation
takes what is too many from its beginning and stops at the first directory.
-/

set_option autoImplicit false

namespace LightShow

namespace FileName

/-! ### Names and texts -/

theorem text?_ofText (text : String) : (ofText text).text? = some text := by
  rw [text?, ofText, Array.toArray_toList]
  exact dif_pos text.isValidUTF8

theorem text?_eq_some_iff {name : FileName} {text : String} :
    name.text? = some text ↔ name = ofText text := by
  constructor
  · intro htext
    rw [text?, String.fromUTF8?] at htext
    split_ifs at htext
    obtain rfl := Option.some.inj htext
    rfl
  · rintro rfl
    exact text?_ofText text

theorem ofText_append (a b : String) : ofText (a ++ b) = ofText a ++ ofText b := by
  simp [ofText]

/-! ### Extensions -/

theorem splitExtension_append {stem extension : FileName} (hstem : stem ≠ [])
    (hextension : dot ∉ extension) :
    splitExtension (stem ++ dot :: extension) = (stem, some extension) := by
  obtain ⟨last, others, hlast⟩ : ∃ last others, stem.reverse = last :: others :=
    List.exists_cons_of_ne_nil (List.reverse_ne_nil_iff.mpr hstem)
  have hreversed : (stem ++ dot :: extension).reverse =
      extension.reverse ++ dot :: last :: others := by
    simp [hlast]
  have hplain : ∀ byte ∈ extension.reverse, decide (byte ≠ dot) = true := by
    intro byte hbyte
    refine decide_eq_true ?_
    rintro rfl
    exact hextension (List.mem_reverse.mp hbyte)
  have htake : (extension.reverse ++ dot :: last :: others).takeWhile (· ≠ dot) =
      extension.reverse := by
    rw [List.takeWhile_append_of_pos hplain]
    simp
  have hdrop : (extension.reverse ++ dot :: last :: others).dropWhile (· ≠ dot) =
      dot :: last :: others := by
    rw [List.dropWhile_append_of_pos hplain]
    simp
  rw [splitExtension, hreversed]
  simp only [htake, hdrop]
  rw [← hlast, List.reverse_reverse, List.reverse_reverse]

theorem exists_of_splitExtension {name extension : FileName}
    (hsplit : (splitExtension name).2 = some extension) :
    ∃ stem, stem ≠ [] ∧ name = stem ++ dot :: extension := by
  unfold splitExtension at hsplit
  dsimp only at hsplit
  split at hsplit
  next first last others hrest =>
    have hfirst : first = dot := by
      have hhead := List.head?_dropWhile_not (· ≠ dot) name.reverse
      rw [hrest] at hhead
      simpa using hhead
    have hname : name.reverse.takeWhile (· ≠ dot) ++ dot :: last :: others = name.reverse := by
      rw [hfirst] at hrest
      rw [← hrest]
      exact List.takeWhile_append_dropWhile
    obtain rfl := Option.some.inj hsplit
    refine ⟨(last :: others).reverse, by simp, ?_⟩
    refine List.reverse_inj.mp (hname.symm.trans ?_)
    simp
  next => cases hsplit

theorem splitExtension_log {stem : FileName} (hstem : stem ≠ []) :
    splitExtension (stem ++ ofText ".log") = (stem, some (ofText "log")) :=
  splitExtension_append hstem (by decide +kernel : dot ∉ ofText "log")

end FileName

namespace LogRotation

/-! ### Names of log files -/

open FileName (ofText)

/-- Whether a name is that of a log file. -/
def IsLogName (name : FileName) : Prop :=
  (∃ stem, stem ≠ [] ∧ name = stem ++ ofText ".log") ∧
    ∃ rest : String, name = ofText ("beatlight" ++ rest)

/-- Whether the name of a log file has a stamp, and which. -/
def Stamped (name : FileName) (stamp : ℕ) : Prop :=
  ∃ numeral : String, name = ofText ("beatlight_" ++ numeral ++ ".log") ∧
    readWord64 numeral.toList = some stamp

theorem isLog_iff (name : FileName) : isLog name = true ↔ IsLogName name := by
  have hextension : name.splitExtension.2 = some (ofText "log") ↔
      ∃ stem, stem ≠ [] ∧ name = stem ++ ofText ".log" := by
    constructor
    · exact FileName.exists_of_splitExtension
    · rintro ⟨stem, hstem, rfl⟩
      rw [FileName.splitExtension_log hstem]
  have hstart (text : String) : text.startsWith logStem = true ↔
      ∃ rest, text = "beatlight" ++ rest := by
    rw [String.startsWith_string_iff]
    constructor
    · rintro ⟨rest, hrest⟩
      refine ⟨String.ofList rest, ?_⟩
      rw [← String.toList_inj, ← hrest]
      simp [logStem]
    · rintro ⟨rest, rfl⟩
      exact ⟨rest.toList, by simp [logStem]⟩
  rw [isLog, Bool.and_eq_true, beq_iff_eq, hextension, Option.any_eq_true, IsLogName]
  simp only [FileName.text?_eq_some_iff, hstart]
  refine and_congr_right fun _ ↦ ⟨?_, ?_⟩
  · rintro ⟨text, hname, rest, rfl⟩
    exact ⟨rest, hname⟩
  · rintro ⟨rest, hname⟩
    exact ⟨_, hname, rest, rfl⟩

theorem after?_eq_some_iff {start text rest : List Char} :
    after? start text = some rest ↔ text = start ++ rest := by
  induction start generalizing text with
  | nil => simp [after?]
  | cons c start ih =>
    cases text with
    | nil => simp [after?]
    | cons d text =>
      rw [after?]
      split_ifs with hsame
      · simp [hsame, ih]
      · simp [Ne.symm hsame]

theorem stamp?_eq_some_iff {name : FileName} (hlog : IsLogName name) (stamp : ℕ) :
    stamp? name = some stamp ↔ Stamped name stamp := by
  obtain ⟨⟨stem, hstem, rfl⟩, -⟩ := hlog
  have hstamp : stamp? (stem ++ ofText ".log") = some stamp ↔
      ∃ text, stem = ofText text ∧ ∃ numeral, text.toList = logStem.toList ++ ('_' :: numeral) ∧
        readWord64 numeral = some stamp := by
    simp only [stamp?, FileName.splitExtension_log hstem, Option.bind_eq_bind,
      Option.bind_eq_some_iff, FileName.text?_eq_some_iff, after?_eq_some_iff]
    simp
  rw [hstamp]
  constructor
  · rintro ⟨text, rfl, numeral, hchars, hread⟩
    have htext : text = "beatlight_" ++ String.ofList numeral := by
      rw [← String.toList_inj, hchars]
      simp [logStem]
    refine ⟨String.ofList numeral, ?_, by rwa [String.toList_ofList]⟩
    rw [← htext, FileName.ofText_append]
  · rintro ⟨numeral, hname, hread⟩
    rw [FileName.ofText_append] at hname
    refine ⟨"beatlight_" ++ numeral, List.append_cancel_right hname, numeral.toList, ?_, hread⟩
    simp [logStem]

/-! ### Order -/

/-- Whether a log file comes before another: its stamp is smaller or missing, or the stamps agree
and its name is smaller. -/
def Older (a b : FileName) : Prop :=
  (∃ later, Stamped b later ∧ ∀ earlier, Stamped a earlier → earlier < later) ∨
    (∀ stamp, Stamped a stamp ↔ Stamped b stamp) ∧ a < b

instance linearOrderByte : LinearOrder UInt8 where
  le_refl := UInt8.le_refl
  le_trans _ _ _ := UInt8.le_trans
  le_antisymm _ _ := UInt8.le_antisymm
  le_total := UInt8.le_total
  lt_iff_le_not_ge _ _ := by
    rw [UInt8.not_le, iff_and_self]
    exact UInt8.le_of_lt
  toDecidableLE := inferInstance

/-- The stamp, from one on so that a missing one is lowest, and then the name. -/
def ageKey (name : FileName) : ℕ ×ₗ FileName :=
  toLex ((stamp? name).elim 0 (· + 1), name)

theorem isOlder_iff (a b : DirectoryEntry) :
    isOlder a b = true ↔ ageKey a.name ≤ ageKey b.name := by
  have hnames : (!decide (b.name < a.name)) = true ↔ a.name ≤ b.name := by
    rw [Bool.not_eq_true', decide_eq_false_iff_not, not_lt]
  rw [ageKey, ageKey, Prod.Lex.toLex_le_toLex, isOlder]
  rcases stamp? a.name with - | earlier <;> rcases stamp? b.name with - | later
  · simpa only [Option.elim, lt_irrefl, false_or, true_and] using hnames
  · simp
  · simp
  · simp only [Option.elim]
    split_ifs with hsame
    · simpa only [hsame, lt_irrefl, false_or, true_and] using hnames
    · simp [hsame]

/-- Only the stamps are looked at; what the names say stays as it is. -/
theorem older_iff {a b : FileName} (ha : IsLogName a) (hb : IsLogName b) :
    Older a b ↔ ageKey a < ageKey b := by
  simp only [Older, ← stamp?_eq_some_iff ha, ← stamp?_eq_some_iff hb]
  rw [ageKey, ageKey, Prod.Lex.toLex_lt_toLex]
  generalize (a < b) = names
  rcases stamp? a with - | earlier <;> rcases stamp? b with - | later
  · simp
  · simp
  · simp
  · simp

/-! ### Arrangements -/

/-- The log files among the entries of a directory, oldest first. The order in which the entries are
listed has no part in this. -/
structure Arranged (entries logs : List DirectoryEntry) : Prop where
  sorted : logs.Pairwise fun a b ↦ Older a.name b.name
  mem_iff : ∀ entry, entry ∈ logs ↔ entry ∈ entries ∧ IsLogName entry.name

namespace Arranged

variable {entries logs others : List DirectoryEntry}

theorem pairwise_ageKey (harranged : Arranged entries logs) :
    logs.Pairwise fun a b ↦ ageKey a.name < ageKey b.name := by
  refine harranged.sorted.imp_of_mem fun {a b} ha hb holder ↦ ?_
  exact (older_iff ((harranged.mem_iff a).mp ha).2 ((harranged.mem_iff b).mp hb).2).mp holder

theorem nodup (harranged : Arranged entries logs) : logs.Nodup := by
  refine harranged.pairwise_ageKey.imp fun hlt heq ↦ ?_
  rw [heq] at hlt
  exact lt_irrefl _ hlt

/-- There is one arrangement only. -/
theorem unique (hlogs : Arranged entries logs) (hothers : Arranged entries others) :
    logs = others := by
  have hperm : logs.Perm others := by
    rw [List.perm_ext_iff_of_nodup hlogs.nodup hothers.nodup]
    intro entry
    rw [hlogs.mem_iff, hothers.mem_iff]
  refine hperm.eq_of_pairwise ?_ hlogs.pairwise_ageKey hothers.pairwise_ageKey
  intro a b _ _ hab hba
  exact (lt_asymm hab hba).elim

theorem of_perm (harranged : Arranged entries logs) (hperm : entries.Perm others) :
    Arranged others logs :=
  ⟨harranged.sorted, fun entry ↦ by rw [harranged.mem_iff, hperm.mem_iff]⟩

/-- Where the first ones of the arranged log files are gone, the others are arranged. -/
theorem drop (harranged : Arranged entries logs) (count : ℕ)
    (hothers : ∀ entry, entry ∈ others ↔
      entry ∈ entries ∧ ∀ gone ∈ logs.take count, gone.name ≠ entry.name) :
    Arranged others (logs.drop count) := by
  have hsplit := harranged.sorted
  rw [← List.take_append_drop count logs, List.pairwise_append] at hsplit
  refine ⟨hsplit.2.1, fun entry ↦ ?_⟩
  rw [hothers, and_right_comm, ← harranged.mem_iff]
  constructor
  · intro hentry
    have hlogs : entry ∈ logs := List.mem_of_mem_drop hentry
    refine ⟨hlogs, fun gone hgone hname ↦ ?_⟩
    have hlog := ((harranged.mem_iff entry).mp hlogs).2
    have holder := hsplit.2.2 gone hgone entry hentry
    rw [hname, older_iff hlog hlog] at holder
    exact lt_irrefl _ holder
  · rintro ⟨hlogs, hkept⟩
    rw [← List.take_append_drop count logs, List.mem_append] at hlogs
    rcases hlogs with hgone | hentry
    · exact (hkept entry hgone rfl).elim
    · exact hentry

end Arranged

theorem arranged_of_perm {entries logs : List DirectoryEntry}
    (hperm : logs.Perm (entries.filter fun entry ↦ isLog entry.name))
    (hsorted : logs.Pairwise fun a b ↦ ageKey a.name < ageKey b.name) : Arranged entries logs := by
  have hmem (entry : DirectoryEntry) :
      entry ∈ logs ↔ entry ∈ entries ∧ IsLogName entry.name := by
    rw [hperm.mem_iff, List.mem_filter, isLog_iff]
  refine ⟨hsorted.imp_of_mem fun {a b} ha hb hlt ↦ ?_, hmem⟩
  exact (older_iff ((hmem a).mp ha).2 ((hmem b).mp hb).2).mpr hlt

theorem arranged_logs {entries : List DirectoryEntry}
    (hdistinct : (entries.map (·.name)).Nodup) : Arranged entries (logs entries) := by
  have hperm : (logs entries).Perm (entries.filter fun entry ↦ isLog entry.name) :=
    List.mergeSort_perm _ _
  have hsorted : (logs entries).Pairwise fun a b ↦ isOlder a b = true := by
    refine List.pairwise_mergeSort ?_ ?_ _
    · intro a b c hab hbc
      rw [isOlder_iff] at hab hbc ⊢
      exact hab.trans hbc
    · intro a b
      rw [Bool.or_eq_true, isOlder_iff, isOlder_iff]
      exact le_total _ _
  have hnodup : ((logs entries).map (·.name)).Nodup :=
    (hperm.map _).nodup_iff.mpr (hdistinct.sublist (List.filter_sublist.map _))
  have hnames : (logs entries).Pairwise fun a b ↦ a.name ≠ b.name := List.pairwise_map.mp hnodup
  refine arranged_of_perm hperm ((hsorted.and hnames).imp fun {a b} hboth ↦ ?_)
  refine ((isOlder_iff a b).mp hboth.1).lt_of_ne fun heq ↦ hboth.2 ?_
  exact congrArg (fun key : ℕ ×ₗ FileName ↦ (ofLex key).2) heq

/-! ### Rotation -/

theorem rotate_of_perm {entries others : List DirectoryEntry} (hperm : others.Perm entries)
    (hdistinct : (entries.map (·.name)).Nodup) (maxFiles : ℕ) :
    rotate maxFiles others = rotate maxFiles entries := by
  have hothers := arranged_logs ((hperm.map (·.name)).nodup_iff.mpr hdistinct)
  have hlogs : logs others = logs entries :=
    (hothers.of_perm hperm).unique (arranged_logs hdistinct)
  rw [rotate, rotate, excess, excess, hlogs]

theorem rotate_eq {entries logs : List DirectoryEntry}
    (hdistinct : (entries.map (·.name)).Nodup) (harranged : Arranged entries logs)
    (maxFiles : ℕ) {removed rest : List DirectoryEntry}
    (hexcess : logs.take (logs.length - (maxFiles - 1)) = removed ++ rest)
    (hfiles : ∀ entry ∈ removed, entry.isDirectory = false)
    (hrest : ∀ entry ∈ rest.head?, entry.isDirectory = true) :
    rotate maxFiles entries = ⟨removed, !rest.isEmpty⟩ := by
  have hwhile : (removed ++ rest).takeWhile (fun entry ↦ !entry.isDirectory) = removed := by
    rw [List.takeWhile_append_of_pos (by simpa using hfiles)]
    cases rest with
    | nil => simp
    | cons first others => simp [hrest first rfl]
  rw [rotate, excess, (arranged_logs hdistinct).unique harranged, hexcess]
  simp only [hwhile, List.length_append]
  cases rest <;> simp

end LogRotation

end LightShow
