import PinAudit.Tree.Document

/-!
# The bracket scan, word by word

`Document.nesting` scans a text one character at a time for the brackets that lie outside
strings. Its effect on a word is described here by two properties of the word, both exact.

* A word is **balanced with height `h`** (`Balanced`) when, scanned from any state outside a
  string, it comes back outside strings at the depth it started from, and the deepest nesting
  seen grows to `h` above that depth. Balanced words compose (`Balanced.append`, heights take
  the larger), and a bracket pair around a balanced word adds one to its height
  (`Balanced.wrap`).
* A word **closes a string** (`ClosesString`) when, scanned inside a string with no escape
  pending, it ends just after the closing quote. A quoted string is then balanced with height
  zero (`Balanced.string`).

A text whose characters start with a word balanced with height `h` nests at least `h` deep
(`le_nesting`), and one that is such a word nests exactly `h` deep (`nesting_eq`). The scan
that stops at a limit (`nestingWithin`) gives the nesting while it is within the limit and one
past the limit otherwise (`nestingWithin_eq`).
-/

namespace PinAudit.Document

namespace Scan

/-- The scan after the characters `w`. -/
def run (s : Scan) (w : List Char) : Scan := w.foldl step s

@[simp] theorem run_nil (s : Scan) : s.run [] = s := rfl

@[simp] theorem run_cons (s : Scan) (c : Char) (w : List Char) :
    s.run (c :: w) = (s.step c).run w := rfl

theorem run_append (s : Scan) (w w' : List Char) : s.run (w ++ w') = (s.run w).run w' :=
  List.foldl_append

/-- A step never lowers the deepest nesting seen. -/
theorem deepest_le_step (s : Scan) (c : Char) : s.deepest ≤ (s.step c).deepest := by
  unfold step
  repeat' split
  -- every branch keeps the deepest nesting, but an opening bracket's takes a maximum with it
  all_goals first | exact Nat.le_refl _ | exact Nat.le_max_left _ _

theorem deepest_le_run (s : Scan) (w : List Char) : s.deepest ≤ (s.run w).deepest := by
  induction w generalizing s with
  | nil => exact Nat.le_refl _
  | cons c w ih => exact Nat.le_trans (deepest_le_step s c) (ih _)

/-- A scan state **outside strings**, with no escape pending and its deepest nesting at least
its current one. -/
structure Out (s : Scan) : Prop where
  not_inString : s.inString = false
  not_escaped : s.escaped = false
  depth_le : s.depth ≤ s.deepest

theorem out_start : Out {} := ⟨rfl, rfl, Nat.le_refl _⟩

end Scan

open Scan

/-- Characters that do not move the scan outside strings: neither a quote nor a bracket. -/
def Plain (c : Char) : Prop := c ≠ '"' ∧ c ≠ '{' ∧ c ≠ '[' ∧ c ≠ '}' ∧ c ≠ ']'

instance : DecidablePred Plain :=
  fun c => inferInstanceAs (Decidable (c ≠ '"' ∧ c ≠ '{' ∧ c ≠ '[' ∧ c ≠ '}' ∧ c ≠ ']'))

/-- A word **balanced with height `h`**: scanned from outside strings, it comes back outside
strings at the same depth, and the deepest nesting seen reaches `h` above that depth. -/
def Balanced (w : List Char) (h : Nat) : Prop :=
  ∀ s : Scan, s.Out → s.run w = { s with deepest := max s.deepest (s.depth + h) }

/-- A word that **closes a string**: scanned inside a string with no escape pending, it ends
outside the string, nothing else changed. -/
def ClosesString (w : List Char) : Prop :=
  ∀ s : Scan, s.inString = true → s.escaped = false → s.run w = { s with inString := false }

namespace Balanced

theorem nil : Balanced [] 0 := by
  intro s hs
  have := hs.depth_le
  simp [Nat.max_eq_left this]

theorem append {w w' : List Char} {h h' : Nat} (hw : Balanced w h) (hw' : Balanced w' h') :
    Balanced (w ++ w') (max h h') := by
  intro s hs
  have hmid : Out { s with deepest := max s.deepest (s.depth + h) } :=
    ⟨hs.not_inString, hs.not_escaped, by dsimp only; omega⟩
  rw [run_append, hw s hs, hw' _ hmid]
  simp only [Scan.mk.injEq, and_true, true_and]
  omega

theorem plain {c : Char} (hc : Plain c) : Balanced [c] 0 := by
  rintro ⟨depth, deepest, inString, escaped⟩ ⟨hi, he, hd⟩
  obtain ⟨hq, ho, hb, hc', hb'⟩ := hc
  dsimp only at hi he hd
  subst hi he
  simp [step, hq, ho, hb, hc', hb', Nat.max_eq_left hd]

/-- Plain characters, any number of them, are balanced with height zero. -/
theorem plains {w : List Char} (hw : ∀ c ∈ w, Plain c) : Balanced w 0 := by
  induction w with
  | nil => exact nil
  | cons c w ih =>
    have := (plain (hw c List.mem_cons_self)).append
      (ih fun c' hc' => hw c' (List.mem_cons_of_mem _ hc'))
    simpa using this

/-- A bracket pair around a balanced word adds one to its height. -/
theorem wrap {w : List Char} {h : Nat} {o c : Char} (hw : Balanced w h)
    (ho : o = '{' ∨ o = '[') (hc : c = '}' ∨ c = ']') : Balanced (o :: w ++ [c]) (h + 1) := by
  intro s hs
  have hopen : s.step o =
      { s with depth := s.depth + 1, deepest := max s.deepest (s.depth + 1) } := by
    rcases ho with rfl | rfl <;> simp [step, hs.not_inString]
  have hin : Out { s with depth := s.depth + 1, deepest := max s.deepest (s.depth + 1) } :=
    ⟨hs.not_inString, hs.not_escaped, by dsimp only; omega⟩
  rw [List.cons_append, run_cons, hopen, run_append, hw _ hin]
  rcases hc with rfl | rfl <;>
  · simp only [run_cons, run_nil, step, hs.not_inString]
    simp
    omega

/-- A quote and a word that closes the string it opens are balanced with height zero. -/
theorem string {w : List Char} (hw : ClosesString w) : Balanced ('"' :: w) 0 := by
  rintro ⟨depth, deepest, inString, escaped⟩ ⟨hi, he, hd⟩
  dsimp only at hi he hd
  subst hi he
  have hopen :
      Scan.step ⟨depth, deepest, false, false⟩ '"' = ⟨depth, deepest, true, false⟩ := by
    simp [step]
  rw [run_cons, hopen, hw ⟨depth, deepest, true, false⟩ rfl rfl]
  simp [Nat.max_eq_left hd]

end Balanced

/-- A word that **stays inside a string**: scanned inside a string with no escape pending, it
changes nothing. -/
def StaysInString (w : List Char) : Prop :=
  ∀ s : Scan, s.inString = true → s.escaped = false → s.run w = s

namespace StaysInString

theorem nil : StaysInString [] := fun _ _ _ => rfl

theorem append {w w' : List Char} (hw : StaysInString w) (hw' : StaysInString w') :
    StaysInString (w ++ w') := by
  intro s hs he
  rw [run_append, hw s hs he, hw' s hs he]

/-- A character other than a quote or a backslash stays inside the string. -/
theorem plain {c : Char} (hq : c ≠ '"') (hb : c ≠ '\\') : StaysInString [c] := by
  intro s hs he
  simp [step, hs, he, hq, hb]

theorem plains {w : List Char} (hw : ∀ c ∈ w, c ≠ '"' ∧ c ≠ '\\') : StaysInString w := by
  induction w with
  | nil => exact nil
  | cons c w ih =>
    have hc := hw c List.mem_cons_self
    exact (plain hc.1 hc.2).append (ih fun c' hc' => hw c' (List.mem_cons_of_mem _ hc'))

/-- A backslash and the character after it stay inside the string. -/
theorem escape (c : Char) : StaysInString ['\\', c] := by
  rintro ⟨depth, deepest, inString, escaped⟩ hs he
  dsimp only at hs he
  subst hs he
  simp [step]

end StaysInString

namespace ClosesString

theorem quote : ClosesString ['"'] := by
  intro s hs he
  simp [step, hs, he]

theorem of_stays {w w' : List Char} (hw : StaysInString w) (hw' : ClosesString w') :
    ClosesString (w ++ w') := by
  intro s hs he
  rw [run_append, hw s hs he, hw' s hs he]

end ClosesString

theorem nesting_eq_run (text : String) : nesting text = (({} : Scan).run text.toList).deepest :=
  rfl

/-- **A text nests at least as deep as a balanced word it starts with.** -/
theorem le_nesting {text : String} {w rest : List Char} {h : Nat} (hw : Balanced w h)
    (htext : text.toList = w ++ rest) : h ≤ nesting text := by
  have hle := deepest_le_run (({} : Scan).run w) rest
  rw [nesting_eq_run, htext, run_append]
  rw [hw {} out_start] at hle ⊢
  simpa using hle

/-- A text that is a balanced word nests exactly as deep as its height. -/
theorem nesting_eq {text : String} {h : Nat} (hw : Balanced text.toList h) : nesting text = h := by
  rw [nesting_eq_run, hw {} out_start]
  simp

/-! ### The scan stopped at a limit -/

namespace Scan

/-- A scan never stands deeper than the deepest nesting it has seen. -/
theorem depth_le_deepest_step {s : Scan} (hs : s.depth ≤ s.deepest) (c : Char) :
    (s.step c).depth ≤ (s.step c).deepest := by
  unfold step
  repeat' split
  all_goals
    try dsimp only
    omega

/-- A step deepens the deepest nesting by at most one. -/
theorem deepest_step_le {s : Scan} (hs : s.depth ≤ s.deepest) (c : Char) :
    (s.step c).deepest ≤ s.deepest + 1 := by
  unfold step
  repeat' split
  -- only an opening bracket moves the deepest nesting, to one below the depth
  all_goals
    try dsimp only
    omega

/-- The stopped scan gives the deepest nesting of the whole scan while it stays within the
limit, and one past the limit otherwise: nesting grows one bracket at a time, so the scan
stops exactly at one past the limit. -/
theorem deepestWithin_eq (limit : Nat) {s : Scan} (cs : List Char) (hs : s.depth ≤ s.deepest)
    (hlim : s.deepest ≤ limit) :
    s.deepestWithin limit cs =
      if (s.run cs).deepest ≤ limit then (s.run cs).deepest else limit + 1 := by
  induction cs generalizing s with
  | nil => simp [deepestWithin, hlim]
  | cons c cs ih =>
    have hone := deepest_step_le hs c
    simp only [deepestWithin]
    rw [run_cons]
    by_cases hpast : (s.step c).deepest > limit
    · -- the step that passes the limit passes it by one, and the rest of the scan stays past it
      have hrun := deepest_le_run (s.step c) cs
      rw [if_pos hpast, if_neg (by omega)]
      omega
    · rw [if_neg hpast]
      exact ih (depth_le_deepest_step hs c) (by omega)

end Scan

/-- **The scan stopped at a limit** gives the nesting when it is within the limit, and one
past the limit otherwise. -/
theorem nestingWithin_eq (text : String) (limit : Nat) :
    nestingWithin text limit = if nesting text ≤ limit then nesting text else limit + 1 :=
  Scan.deepestWithin_eq limit text.toList (Nat.le_refl _) (Nat.zero_le _)

example : nestingWithin "[[[[[[" 3 = 4 := by decide

/-- The stopped scan passes the limit exactly when the text nests past it. -/
theorem nestingWithin_gt_iff (text : String) (limit : Nat) :
    nestingWithin text limit > limit ↔ nesting text > limit := by
  rw [nestingWithin_eq]
  split <;> omega

end PinAudit.Document
