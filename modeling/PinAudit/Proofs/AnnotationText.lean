import Mathlib.Data.List.Forall2
import Mathlib.Tactic.SplitIfs
import PinAudit.Report.Annotation

/-!
# Workflow annotations read back

A report's annotations are workflow command lines, one per finding: `::level file=P,line=N::M`,
with `,line=N` only for a finding that names a line, or `::level::M` for a finding without a
location. The command syntax reserves characters, which the lines write as `%` and two hex
digits: `%`, carriage return and line feed everywhere, and `:` and `,` also in the property `P`.

Each character is escaped on its own, and every escape opens with `%`, which is itself escaped.
So a reader that goes from left to right and reads `%25`, `%0D`, `%0A`, `%3A` and `%2C` as the
characters they stand for (`unescape`) gets back exactly the text that was escaped
(`unescape_escapeData`, `unescape_escapeProperty`), and an escaped text holds no line break
and, for a property, no `:` or `,`.

Main definitions: `unescape`, `Finding.Annotates`. Main statement:
`Report.annotations_read_back`.
-/

namespace PinAudit

/-- **Read workflow-command escapes back**, from left to right: `%25`, `%0D`, `%0A`, `%3A` and
`%2C` stand for `%`, carriage return, line feed, `:` and `,`; every other character stands for
itself. -/
def unescape : List Char → List Char
  | '%' :: '2' :: '5' :: rest => '%' :: unescape rest
  | '%' :: '0' :: 'D' :: rest => '\r' :: unescape rest
  | '%' :: '0' :: 'A' :: rest => '\n' :: unescape rest
  | '%' :: '3' :: 'A' :: rest => ':' :: unescape rest
  | '%' :: '2' :: 'C' :: rest => ',' :: unescape rest
  | c :: rest => c :: unescape rest
  | [] => []

/-- A character other than `%` stands for itself. -/
theorem unescape_cons_of_ne {c : Char} (hc : c ≠ '%') (rest : List Char) :
    unescape (c :: rest) = c :: unescape rest := by
  conv_lhs => unfold unescape
  split <;> simp_all

/-! ### Escaping one character -/

/-- What a message character is written as: `%`, carriage return and line feed as `%` and two
hex digits, every other character as itself. -/
theorem escapeDataChar_toList (c : Char) :
    (escapeDataChar c).toList =
      if c = '%' then ['%', '2', '5'] else if c = '\r' then ['%', '0', 'D']
      else if c = '\n' then ['%', '0', 'A'] else [c] := by
  unfold escapeDataChar
  split_ifs <;> simp_all [Char.toString_eq_singleton]

/-- What a property character is written as: `:` and `,` as `%` and two hex digits, every other
character as in a message. -/
theorem escapePropertyChar_toList (c : Char) :
    (escapePropertyChar c).toList =
      if c = ':' then ['%', '3', 'A'] else if c = ',' then ['%', '2', 'C']
      else (escapeDataChar c).toList := by
  unfold escapePropertyChar
  split_ifs <;> simp_all

/-- **An escaped message character reads back** as itself, whatever follows it. -/
theorem unescape_escapeDataChar (c : Char) (rest : List Char) :
    unescape ((escapeDataChar c).toList ++ rest) = c :: unescape rest := by
  rw [escapeDataChar_toList]
  split_ifs with hpct hcr hlf
  · subst hpct; rfl
  · subst hcr; rfl
  · subst hlf; rfl
  · exact unescape_cons_of_ne hpct rest

/-- **An escaped property character reads back** as itself, whatever follows it. -/
theorem unescape_escapePropertyChar (c : Char) (rest : List Char) :
    unescape ((escapePropertyChar c).toList ++ rest) = c :: unescape rest := by
  rw [escapePropertyChar_toList]
  split_ifs with hcolon hcomma
  · subst hcolon; rfl
  · subst hcomma; rfl
  · exact unescape_escapeDataChar c rest

/-- An escaped message character is no line break. -/
theorem not_mem_escapeDataChar (c : Char) {b : Char} (hb : b = '\r' ∨ b = '\n') :
    b ∉ (escapeDataChar c).toList := by
  rw [escapeDataChar_toList]
  -- a line break is escaped, and the escapes are made of other characters
  split_ifs with h₁ h₂ h₃
  · rcases hb with rfl | rfl <;> decide
  · rcases hb with rfl | rfl <;> decide
  · rcases hb with rfl | rfl <;> decide
  · rw [List.mem_singleton]
    rintro rfl
    rcases hb with h | h
    exacts [h₂ h, h₃ h]

/-- An escaped property character is no line break, `:` or `,`. -/
theorem not_mem_escapePropertyChar (c : Char) {b : Char}
    (hb : b = '\r' ∨ b = '\n' ∨ b = ':' ∨ b = ',') : b ∉ (escapePropertyChar c).toList := by
  rw [escapePropertyChar_toList, escapeDataChar_toList]
  split_ifs with h₁ h₂ h₃ h₄ h₅
  any_goals rcases hb with rfl | rfl | rfl | rfl <;> decide
  rw [List.mem_singleton]
  rintro rfl
  rcases hb with h | h | h | h
  exacts [h₄ h, h₅ h, h₁ h, h₂ h]

/-! ### Escaping a text -/

theorem escapeData_toList (s : String) :
    (escapeData s).toList = s.toList.flatMap fun c => (escapeDataChar c).toList := by
  rw [escapeData, String.toList_join, List.flatMap_map]

theorem escapeProperty_toList (s : String) :
    (escapeProperty s).toList = s.toList.flatMap fun c => (escapePropertyChar c).toList := by
  rw [escapeProperty, String.toList_join, List.flatMap_map]

/-- Reading back characters escaped one by one gives the characters. -/
theorem unescape_flatMap {esc : Char → String}
    (hesc : ∀ c rest, unescape ((esc c).toList ++ rest) = c :: unescape rest) :
    ∀ cs : List Char, unescape (cs.flatMap fun c => (esc c).toList) = cs
  | [] => rfl
  | c :: cs => by
    rw [List.flatMap_cons, hesc, unescape_flatMap hesc cs]

/-- **An escaped message reads back.** -/
theorem unescape_escapeData (s : String) : unescape (escapeData s).toList = s.toList := by
  rw [escapeData_toList, unescape_flatMap unescape_escapeDataChar]

/-- **An escaped property reads back.** -/
theorem unescape_escapeProperty (s : String) : unescape (escapeProperty s).toList = s.toList := by
  rw [escapeProperty_toList, unescape_flatMap unescape_escapePropertyChar]

theorem not_mem_escapeData (s : String) {b : Char} (hb : b = '\r' ∨ b = '\n') :
    b ∉ (escapeData s).toList := by
  rw [escapeData_toList, List.mem_flatMap]
  rintro ⟨c, -, hc⟩
  exact not_mem_escapeDataChar c hb hc

theorem not_mem_escapeProperty (s : String) {b : Char}
    (hb : b = '\r' ∨ b = '\n' ∨ b = ':' ∨ b = ',') : b ∉ (escapeProperty s).toList := by
  rw [escapeProperty_toList, List.mem_flatMap]
  rintro ⟨c, -, hc⟩
  exact not_mem_escapePropertyChar c hb hc

/-! ### Annotation lines -/

/-- **A line annotates a finding** when it is a single line, opens with the finding's level,
carries the finding's location, if any, as a `file` property that holds neither `:` nor `,` and
reads back to the location's path, followed by the location's line, if any, and ends with a
message that reads back to `[check:code] message`. -/
structure Finding.Annotates (f : Finding) (line : String) : Prop where
  single_line : '\r' ∉ line.toList ∧ '\n' ∉ line.toList
  located : ∀ l, f.location = some l → ∃ P M : String,
    line = "::" ++ f.severity.annotationLevel ++ " file=" ++ P ++
      (l.line.map fun n => ",line=" ++ toString n).getD "" ++ "::" ++ M ∧
    ':' ∉ P.toList ∧ ',' ∉ P.toList ∧ unescape P.toList = l.path.text.toList ∧
    unescape M.toList = ("[" ++ f.checkId ++ ":" ++ f.code ++ "] " ++ f.message).toList
  unlocated : f.location = none → ∃ M : String,
    line = "::" ++ f.severity.annotationLevel ++ "::" ++ M ∧
    unescape M.toList = ("[" ++ f.checkId ++ ":" ++ f.code ++ "] " ++ f.message).toList

/-- No level holds a line break. -/
theorem Severity.not_mem_annotationLevel (s : Severity) {b : Char} (hb : b = '\r' ∨ b = '\n') :
    b ∉ s.annotationLevel.toList := by
  rcases hb with rfl | rfl <;> cases s <;> decide

/-- The line property of a location holds no line break: it is `,line=` and digits. -/
theorem not_mem_lineProperty (line : Option Nat) {b : Char} (hb : b = '\r' ∨ b = '\n') :
    b ∉ ((line.map fun n => ",line=" ++ toString n).getD "").toList := by
  cases line with
  | none => simp
  | some n =>
    have hdigits : b ∉ (toString n).toList := fun hmem => by
      have hdigit := Nat.isDigit_of_mem_toDigits (by decide) (by decide)
        (by simpa using hmem : b ∈ Nat.toDigits 10 n)
      rcases hb with rfl | rfl <;> simp at hdigit
    simp only [Option.map_some, Option.getD_some, String.toList_append, List.mem_append, not_or]
    exact ⟨by rcases hb with rfl | rfl <;> decide, hdigits⟩

/-- The annotation of a located finding, its line property written out. -/
theorem Finding.annotation_of_location {f : Finding} {l : Location} (hl : f.location = some l) :
    f.annotation = "::" ++ f.severity.annotationLevel ++ " file=" ++ escapeProperty l.path.text ++
      (l.line.map fun n => ",line=" ++ toString n).getD "" ++ "::" ++
      escapeData ("[" ++ f.checkId ++ ":" ++ f.code ++ "] " ++ f.message) := by
  unfold Finding.annotation
  rw [hl]
  obtain ⟨path, line⟩ := l
  cases line <;> rfl

theorem Finding.annotation_of_no_location {f : Finding} (hl : f.location = none) :
    f.annotation = "::" ++ f.severity.annotationLevel ++ "::" ++
      escapeData ("[" ++ f.checkId ++ ":" ++ f.code ++ "] " ++ f.message) := by
  unfold Finding.annotation
  rw [hl]

/-- The fixed texts of an annotation hold no line break. -/
theorem not_mem_of_break {b : Char} (hb : b = '\r' ∨ b = '\n') :
    b ∉ "::".toList ∧ b ∉ " file=".toList := by
  rcases hb with rfl | rfl <;> decide

/-- **No annotation breaks its line.** -/
theorem Finding.not_mem_annotation (f : Finding) {b : Char} (hb : b = '\r' ∨ b = '\n') :
    b ∉ f.annotation.toList := by
  have hlevel := f.severity.not_mem_annotationLevel hb
  have hmsg := not_mem_escapeData ("[" ++ f.checkId ++ ":" ++ f.code ++ "] " ++ f.message) hb
  obtain ⟨hsep, hfile⟩ := not_mem_of_break hb
  cases hloc : f.location with
  | none =>
    rw [f.annotation_of_no_location hloc]
    simp only [String.toList_append, List.mem_append, not_or]
    exact ⟨⟨⟨hsep, hlevel⟩, hsep⟩, hmsg⟩
  | some l =>
    have hpath := not_mem_escapeProperty l.path.text (b := b) (by rcases hb with h | h <;> simp [h])
    rw [f.annotation_of_location hloc]
    simp only [String.toList_append, List.mem_append, not_or]
    exact ⟨⟨⟨⟨⟨⟨hsep, hlevel⟩, hfile⟩, hpath⟩, not_mem_lineProperty l.line hb⟩, hsep⟩, hmsg⟩

/-- **The annotation of a finding annotates it.** -/
theorem Finding.annotates_annotation (f : Finding) : f.Annotates f.annotation := by
  have hmsg := unescape_escapeData ("[" ++ f.checkId ++ ":" ++ f.code ++ "] " ++ f.message)
  refine ⟨⟨f.not_mem_annotation (.inl rfl), f.not_mem_annotation (.inr rfl)⟩,
    fun l hl => ?_, fun hl => ⟨_, f.annotation_of_no_location hl, hmsg⟩⟩
  exact ⟨_, _, f.annotation_of_location hl, not_mem_escapeProperty _ (by simp),
    not_mem_escapeProperty _ (by simp), unescape_escapeProperty _, hmsg⟩

/-- **A report's annotations read back.** The annotations of a report, up to `max` of them, are
the lines of its first `max` findings, one line per finding and in order, and without a limit
below the number of findings, one line for every finding. Each line is a single line, opens
with the finding's level, carries its location as a `file` property free of `:` and `,` that
reads back to the path, with its line number if it has one, and ends with a message that reads
back, escape by escape from left to right, to exactly `[check:code] message`. -/
theorem Report.annotations_read_back (r : Report) (max : Nat) :
    List.Forall₂ Finding.Annotates (r.findings.take max) (r.annotations max) ∧
    (r.findings.length ≤ max → List.Forall₂ Finding.Annotates r.findings (r.annotations max)) := by
  have hall : List.Forall₂ Finding.Annotates (r.findings.take max) (r.annotations max) := by
    rw [Report.annotations, ← List.map_take, List.forall₂_map_right_iff]
    exact List.forall₂_same.2 fun f _ => f.annotates_annotation
  refine ⟨hall, fun hle => ?_⟩
  rwa [List.take_of_length_le hle] at hall

end PinAudit
