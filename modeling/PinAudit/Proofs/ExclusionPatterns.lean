import Mathlib
import PinAudit.Proofs.Audit
import PinAudit.Proofs.RangeGrammar

/-!
# What exclusion patterns match

A pattern is read from its text: trimmed, cut at each `:` into segments (`Pattern.segmentsOf`),
and each segment read by its kind (`Segment.kind`), which depends on its position and its text.
`Segment.TextAccepts` says what a written segment accepts, in the terms of the pattern syntax
rather than of compiled segments, and `Segment.TextRefused` which segments are refused;
`Pattern.TextAccepts` and `Pattern.TextRefused` lift them to whole patterns, the `i`-th segment
meeting the `i`-th field and fields without a segment left alone.

`Matcher.compile_follows_text` says that a compiled matcher accepts a dependency exactly when
one of its written patterns does, and that compiling fails exactly when some pattern is refused.
It is assembled from one lemma per layer: `Segment.compile_eq` reads a segment by its kind,
`compileSegments_accepts` and `compileSegments_error_iff` go along the segments, and
`Pattern.compile_accepts` and `Pattern.compile_error_iff` read a whole pattern.
-/

namespace PinAudit

open Version

/-- The lenient reading is the constraint `ofResolved` reads, with its log. -/
theorem Constraint.readResolved_eq_pair (text : String) :
    Constraint.readResolved text =
      ((Constraint.readResolved text).1, Constraint.ofResolved text) := by
  rw [← Constraint.readResolved_snd]

namespace Segment

/-- How a segment is read. -/
inductive Kind where
  | anything
  | range
  | version
  | glob
  deriving DecidableEq, Repr

/-- A text that opens with an interval's opening bracket. -/
def Opens (s : String) : Prop := s.toList.head? = some '[' ∨ s.toList.head? = some '('

instance (s : String) : Decidable (Opens s) := inferInstanceAs (Decidable (_ ∨ _))

/-- **The kind of a written segment**: `*` is anything; at the version position (index 2) a
segment opening with `[` or `(` is a range, and a non-empty one free of glob characters is a
version; every other segment is a glob. -/
def kind (idx : Nat) (s : String) : Kind :=
  if s = "*" then .anything
  else if idx = 2 ∧ Opens s then .range
  else if idx = 2 ∧ s ≠ "" ∧ ∀ c ∈ s.toList, c ∉ globMeta then .version
  else .glob

/-- **What a written segment accepts** at its position: anything for `*`; a range accepts its
trimmed text and every fixed version it contains; a version accepts its own text and every
fixed version equivalent to it; a glob accepts what it matches. -/
def TextAccepts (idx : Nat) (s value : String) : Prop :=
  match kind idx s with
  | .anything => True
  | .range => ∃ r, Range.parse s = .ok r ∧
      (value = Text.trim s ∨ ∃ w, Constraint.ofResolved value = .fixed w ∧ r.contains w = true)
  | .version => value = s ∨ ∃ w, Constraint.ofResolved value = .fixed w ∧ w.equiv ⟨s⟩ = true
  | .glob => ∃ g, Glob.compile s = .ok g ∧ g.accepts value = true

/-- A written segment is **refused** when it is a range that does not read or a glob that does
not compile. -/
def TextRefused (idx : Nat) (s : String) : Prop :=
  match kind idx s with
  | .range => ∃ e, Range.parse s = .error e
  | .glob => ∃ e, Glob.compile s = .error e
  | .anything | .version => False

theorem opens_iff (s : String) :
    (s.toList.head?.map isOpening).getD false = true ↔ Opens s := by
  unfold Opens
  cases s.toList with
  | nil => simp
  | cons c cs =>
    simp only [List.head?_cons, Option.map_some, Option.getD_some, Option.some.injEq]
    simp [isOpening]

theorem plain_iff (s : String) :
    (!s.isEmpty && !s.toList.any globMeta.contains) = true ↔
      s ≠ "" ∧ ∀ c ∈ s.toList, c ∉ globMeta := by
  simp

/-- **Compiling a segment follows its kind**, whatever the glob library. -/
theorem compile_eq (idx : Nat) (s : String) (glob : String → Except GlobError (String → Bool)) :
    compile idx s glob =
      match kind idx s with
      | .anything => .ok .anything
      | .range => ((Range.parse s).mapError ParseError.message).map .range
      | .version => .ok (.version ⟨s⟩)
      | .glob => ((glob s).mapError (GlobError.message s)).map .glob := by
  unfold compile kind
  by_cases hstar : s = "*"
  · simp [hstar]
  -- rewrite the kind first, so that its `match` reduces before the code's test is rewritten
  rw [if_neg hstar, if_neg (by simpa using hstar)]
  by_cases hrange : idx = 2 ∧ Opens s
  · rw [if_pos hrange]
    dsimp only
    rw [if_pos (by simpa [opens_iff] using hrange)]
    cases Range.parse s <;> rfl
  rw [if_neg hrange, if_neg (by simpa [opens_iff] using hrange)]
  by_cases hversion : idx = 2 ∧ s ≠ "" ∧ ∀ c ∈ s.toList, c ∉ globMeta
  · rw [if_pos hversion]
    dsimp only
    rw [if_pos (by simpa [Bool.and_assoc, plain_iff] using hversion)]
  rw [if_neg hversion]
  dsimp only
  rw [if_neg (by simpa [Bool.and_assoc, plain_iff] using hversion)]
  cases glob s <;> rfl

/-- A version segment accepts its own text, and otherwise a value read as a fixed version
equivalent to it. -/
theorem accepts_version (u : Version) (value : String) :
    (Segment.version u).accepts value = true ↔
      u.text = value ∨ ∃ w, Constraint.ofResolved value = .fixed w ∧ w.equiv u = true := by
  unfold accepts check
  dsimp only
  by_cases h : u.text = value
  · simp [h]
  -- past its own text, the value is read leniently
  rw [if_neg (by simpa using h), Constraint.readResolved_eq_pair]
  cases Constraint.ofResolved value <;> simp [h]

/-- A range segment accepts its own text, and otherwise a value read as a fixed version the
range contains. -/
theorem accepts_range (r : Range) (value : String) :
    (Segment.range r).accepts value = true ↔
      r.text = value ∨ ∃ w, Constraint.ofResolved value = .fixed w ∧ r.contains w = true := by
  unfold accepts check
  dsimp only
  by_cases h : r.text = value
  · simp [h]
  -- past its own text, the value is read leniently
  rw [if_neg (by simpa using h), Constraint.readResolved_eq_pair]
  cases Constraint.ofResolved value <;> simp [h]

/-- **A compiled segment accepts what its text accepts.** -/
theorem compile_accepts {idx : Nat} {s : String} {seg : Segment} (h : compile idx s = .ok seg)
    (value : String) : seg.accepts value = true ↔ TextAccepts idx s value := by
  rw [compile_eq] at h
  unfold TextAccepts
  cases hk : kind idx s with
  | anything =>
    rw [hk] at h
    cases h
    exact iff_of_true rfl trivial
  | range =>
    rw [hk] at h
    cases hr : Range.parse s with
    | error e =>
      rw [hr] at h
      cases h
    | ok r =>
      rw [hr] at h
      cases h
      -- a range keeps the trimmed text it was read from
      rw [accepts_range, Range.text_of_parse_eq_ok hr]
      constructor
      · intro hacc
        exact ⟨r, rfl, hacc.imp Eq.symm id⟩
      · rintro ⟨r', hr', hacc⟩
        cases hr'
        exact hacc.imp Eq.symm id
  | version =>
    rw [hk] at h
    cases h
    rw [accepts_version]
    exact or_congr_left eq_comm
  | glob =>
    -- the tool's glob library compiles a glob to the matcher of the compiled glob
    rw [hk] at h
    cases hg : Glob.compile s with
    | error e =>
      rw [toolGlob, hg] at h
      cases h
    | ok g =>
      rw [toolGlob, hg] at h
      cases h
      constructor
      · intro hacc
        exact ⟨g, rfl, hacc⟩
      · rintro ⟨g', hg', hacc⟩
        cases hg'
        exact hacc

/-- **Compiling a segment fails exactly on a refused segment.** -/
theorem compile_error_iff (idx : Nat) (s : String) :
    (∃ e, compile idx s = .error e) ↔ TextRefused idx s := by
  rw [compile_eq]
  unfold TextRefused
  cases kind idx s with
  | anything => simp
  | range => cases Range.parse s <;> simp [Except.mapError, Except.map]
  | version => simp
  | glob => cases hg : Glob.compile s <;> simp [toolGlob, hg, Except.mapError, Except.map]

end Segment

/-! ### Cutting a text at one character

The pattern reader cuts with the byte-position splitter of strings, which has no lemmas of its
own. At a one-character separator it cuts as the splitter of lists does on the characters. -/

namespace Text

/-- The splitter's loop, between the start `l` of the current part, the characters `m` read into
it and the rest `r`, with the parts `acc` cut so far: the invariant runs as the list splitter's
accumulating form. -/
theorem splitOnAux_char (c : Char) (r : List Char) :
    ∀ (l m : List Char) (acc : List String),
    String.splitOnAux (String.ofList (l ++ m ++ r)) (String.ofList [c]) ⟨String.utf8Len l⟩
        ⟨String.utf8Len l + String.utf8Len m⟩ 0 acc =
      acc.reverse ++ (List.splitOnPPrepend (· == c) r m.reverse).map String.ofList := by
  induction r with
  | nil =>
    intro l m acc
    have hend : String.Pos.Raw.atEnd (String.ofList (l ++ m ++ [])) ⟨String.utf8Len (l ++ m)⟩ =
        true :=
      (String.atEnd_of_valid (l ++ m) []).2 rfl
    unfold String.splitOnAux
    rw [← String.utf8Len_append, if_pos hend]
    simpa using String.extract_of_valid l m []
  | cons d r ih =>
    intro l m acc
    have hend : ¬ String.Pos.Raw.atEnd (String.ofList (l ++ m ++ d :: r))
        ⟨String.utf8Len (l ++ m)⟩ = true :=
      fun h => List.cons_ne_nil d r ((String.atEnd_of_valid (l ++ m) (d :: r)).1 h)
    -- the separator is one character, so a match ends at once and the loop restarts at `0`
    have hsepGet : (0 : String.Pos.Raw).get (String.ofList [c]) = c := String.get_of_valid [] [c]
    have hsepNext : (0 : String.Pos.Raw).next (String.ofList [c]) = ⟨c.utf8Size⟩ := by
      simpa using String.next_of_valid [] c []
    have hsepEnd : String.Pos.Raw.atEnd (String.ofList [c]) ⟨c.utf8Size⟩ = true := by
      simpa using (String.atEnd_of_valid [c] []).2 rfl
    unfold String.splitOnAux
    dsimp only
    rw [← String.utf8Len_append, if_neg hend, String.get_of_valid, String.next_of_valid, hsepGet,
      hsepNext]
    by_cases hdc : d = c
    · -- a separator: the part read so far is cut off and a new one starts after it
      subst hdc
      have hback : String.Pos.Raw.unoffsetBy ⟨String.utf8Len (l ++ m) + d.utf8Size⟩ ⟨d.utf8Size⟩ =
          ⟨String.utf8Len (l ++ m)⟩ := by
        simp [String.Pos.Raw.unoffsetBy]
      rw [if_pos (by simp), if_pos hsepEnd, hback, String.utf8Len_append, String.extract_of_valid]
      have hrest := ih (l ++ m ++ [d]) [] (String.ofList m :: acc)
      simp only [String.utf8Len_append, String.utf8Len_cons, String.utf8Len_nil, Nat.add_zero,
        List.append_nil, List.append_assoc, List.singleton_append] at hrest
      simpa [List.splitOnPPrepend_cons_eq_if, Nat.add_assoc] using hrest
    · -- another character joins the current part
      have hzero : String.Pos.Raw.unoffsetBy ⟨String.utf8Len (l ++ m)⟩ 0 =
          ⟨String.utf8Len (l ++ m)⟩ := by
        simp [String.Pos.Raw.unoffsetBy]
      rw [if_neg (by simpa using hdc), hzero, String.next_of_valid]
      have hrest := ih l (m ++ [d]) acc
      simp only [String.utf8Len_append, String.utf8Len_cons, String.utf8Len_nil, List.append_assoc,
        List.singleton_append] at hrest
      simpa [List.splitOnPPrepend_cons_eq_if, hdc, Nat.add_assoc] using hrest

/-- **Cutting a text at a character** gives the texts of the list splitter's parts. -/
theorem splitOn_char (s : String) (c : Char) :
    s.splitOn (String.ofList [c]) = (s.toList.splitOn c).map String.ofList := by
  have h := splitOnAux_char c s.toList [] [] []
  simp only [List.nil_append, String.ofList_toList, String.utf8Len_nil, Nat.add_zero,
    List.reverse_nil] at h
  unfold String.splitOn
  rw [if_neg (by simp), List.splitOn_eq_splitOnP]
  exact h

end Text

namespace Pattern

/-- The segments a pattern is written in: its trimmed text cut at each `:`. -/
def segmentsOf (p : String) : List String := (Text.trim p).splitOn ":"

/-- **A written pattern accepts a dependency** when each segment accepts the field at its
position; fields past the last segment are not looked at. -/
def TextAccepts (p : String) (d : Dependency) : Prop :=
  ∀ i s v, (segmentsOf p)[i]? = some s → (fields d)[i]? = some v → Segment.TextAccepts i s v

/-- **A written pattern is refused** when it is blank, has more than six segments, or has a
refused segment. -/
def TextRefused (p : String) : Prop :=
  Text.trim p = "" ∨ maxSegments < (segmentsOf p).length ∨
    ∃ i s, (segmentsOf p)[i]? = some s ∧ Segment.TextRefused i s

section Positions

variable {α β : Type} {P : Nat → α → β → Prop} {Q : Nat → α → Prop}

/-- A property of the pairs at equal positions of two lists, split at their heads. -/
theorem forall_getElem?_cons {x : α} {xs : List α} {y : β} {ys : List β} :
    (∀ i a b, (x :: xs)[i]? = some a → (y :: ys)[i]? = some b → P i a b) ↔
      P 0 x y ∧ ∀ i a b, xs[i]? = some a → ys[i]? = some b → P (i + 1) a b := by
  constructor
  · intro h
    exact ⟨h 0 x y rfl rfl, fun i a b ha hb => h (i + 1) a b ha hb⟩
  · rintro ⟨h0, h⟩ (_ | i) a b ha hb
    · simp only [List.getElem?_cons_zero, Option.some.injEq] at ha hb
      subst ha hb
      exact h0
    · exact h i a b ha hb

/-- Some position of a list has a property, split at its head. -/
theorem exists_getElem?_cons {x : α} {xs : List α} :
    (∃ i a, (x :: xs)[i]? = some a ∧ Q i a) ↔ Q 0 x ∨ ∃ i a, xs[i]? = some a ∧ Q (i + 1) a := by
  constructor
  · rintro ⟨(_ | i), a, ha, hq⟩
    · simp only [List.getElem?_cons_zero, Option.some.injEq] at ha
      subst ha
      exact Or.inl hq
    · exact Or.inr ⟨i, a, ha, hq⟩
  · rintro (hq | ⟨i, a, ha, hq⟩)
    · exact ⟨0, x, rfl, hq⟩
    · exact ⟨i + 1, a, ha, hq⟩

end Positions

theorem checkAll_cons_snd (s : Segment) (ss : List Segment) (v : String) (vs : List String) :
    (checkAll (s :: ss) (v :: vs)).2 = (s.accepts v && (checkAll ss vs).2) := by
  rw [checkAll]
  rcases hs : s.check v with ⟨log, ok⟩
  cases ok <;> simp [Segment.accepts, hs]

/-- **Compiled segments accept values** exactly when each written segment accepts the value at
its position; the induction is on the written segments, whose positions count up from `idx`. -/
theorem compileSegments_accepts :
    ∀ (parts : List String) (idx : Nat) (segs : List Segment) (values : List String),
      compileSegments idx parts = .ok segs →
      ((checkAll segs values).2 = true ↔
        ∀ i s v, parts[i]? = some s → values[i]? = some v → Segment.TextAccepts (idx + i) s v)
  | [], idx, segs, values, h => by
    cases h
    simp [checkAll]
  | p :: ps, idx, segs, values, h => by
    obtain ⟨seg, hseg, h⟩ := Except.bind_eq_ok.1 h
    obtain ⟨rest, hrest, h⟩ := Except.bind_eq_ok.1 h
    cases h
    cases values with
    | nil => simp [checkAll]
    | cons v vs =>
      -- the positions of the later segments count on from `idx + 1`
      have hshift : ∀ i, idx + 1 + i = idx + (i + 1) := by omega
      rw [checkAll_cons_snd, Bool.and_eq_true, Segment.compile_accepts hseg,
        compileSegments_accepts ps (idx + 1) rest vs hrest, forall_getElem?_cons]
      simp only [hshift, Nat.add_zero]

/-- **Compiling segments fails** exactly when one of them is refused at its position. -/
theorem compileSegments_error_iff :
    ∀ (parts : List String) (idx : Nat),
      (∃ e, compileSegments idx parts = .error e) ↔
        ∃ i s, parts[i]? = some s ∧ Segment.TextRefused (idx + i) s
  | [], idx => by
    constructor
    · rintro ⟨e, he⟩
      cases he
    · rintro ⟨i, s, hs, -⟩
      rw [List.getElem?_nil] at hs
      cases hs
  | p :: ps, idx => by
    have hshift : ∀ i, idx + 1 + i = idx + (i + 1) := by omega
    have ih := compileSegments_error_iff ps (idx + 1)
    simp only [hshift] at ih
    rw [exists_getElem?_cons, Nat.add_zero, ← Segment.compile_error_iff, ← ih, compileSegments]
    cases Segment.compile idx p with
    | error e => simp [bind, Except.bind]
    | ok seg =>
      cases compileSegments (idx + 1) ps with
      | error e => simp [bind, Except.bind]
      | ok rest => simp [bind, Except.bind, pure, Except.pure]

theorem compile_eq_ok {p : String} {pat : Pattern} (h : compile p = .ok pat) :
    compileSegments 0 (segmentsOf p) = .ok pat.segments := by
  unfold compile at h
  dsimp only at h
  split at h
  · cases h
  · split at h
    · cases h
    · split at h
      · cases h
        assumption
      · cases h

/-- **A compiled pattern accepts what its text accepts.** -/
theorem compile_accepts {p : String} {pat : Pattern} (h : compile p = .ok pat) (d : Dependency) :
    pat.accepts d = true ↔ TextAccepts p d := by
  rw [accepts, check, compileSegments_accepts _ 0 _ _ (compile_eq_ok h)]
  simp only [Nat.zero_add]
  rfl

/-- **Compiling a pattern fails exactly on a refused pattern.** -/
theorem compile_error_iff (p : String) : (∃ e, compile p = .error e) ↔ TextRefused p := by
  have hsegs := compileSegments_error_iff (segmentsOf p) 0
  simp only [Nat.zero_add] at hsegs
  unfold compile TextRefused
  dsimp only
  -- the refusals are tried in order: a blank pattern, too many segments, a refused segment
  by_cases hblank : (Text.trim p).isEmpty = true
  · rw [if_pos hblank]
    simp [String.isEmpty_iff.1 hblank]
  rw [if_neg hblank]
  have hne : Text.trim p ≠ "" := fun h => hblank (String.isEmpty_iff.2 h)
  by_cases hlong : ((Text.trim p).splitOn ":").length > maxSegments
  · rw [if_pos hlong]
    simp only [segmentsOf] at hsegs ⊢
    simp [hlong]
  rw [if_neg hlong]
  simp only [segmentsOf] at hsegs ⊢
  rw [← hsegs]
  cases compileSegments 0 ((Text.trim p).splitOn ":") <;> simp [hne, hlong]

end Pattern

namespace Matcher

theorem mapM_eq_error_iff {α β ε : Type} {f : α → Except ε β} :
    ∀ {l : List α}, (∃ e, l.mapM f = .error e) ↔ ∃ x ∈ l, ∃ e, f x = .error e
  | [] => by simp [pure, Except.pure]
  | x :: xs => by
    rw [List.mapM_cons]
    cases hx : f x with
    | error e => simp [bind, Except.bind, hx]
    | ok y =>
      have ih := mapM_eq_error_iff (f := f) (l := xs)
      cases hxs : xs.mapM f with
      | error e => simp_all [bind, Except.bind]
      | ok ys => simp_all [bind, Except.bind, pure, Except.pure]

theorem exists_ok_of_mapM {α β ε : Type} {f : α → Except ε β} :
    ∀ {l : List α} {l' : List β}, l.mapM f = .ok l' → ∀ x ∈ l, ∃ y, f x = .ok y
  | [], _, _, x, hx => absurd hx List.not_mem_nil
  | x :: xs, l', h, z, hz => by
    rw [List.mapM_cons] at h
    obtain ⟨y, hy, h⟩ := Except.bind_eq_ok.1 h
    obtain ⟨ys, hys, -⟩ := Except.bind_eq_ok.1 h
    rcases List.mem_cons.1 hz with rfl | hz
    · exact ⟨y, hy⟩
    · exact exists_ok_of_mapM hys z hz

/-- **Compiled exclusion patterns match as their texts say.** When every pattern compiles, the
matcher accepts a dependency exactly when one of the written patterns accepts it, each segment
meeting the field at its position; compiling fails exactly when some pattern is blank, has more
than six segments, or has a range or a glob segment that does not compile. -/
theorem compile_follows_text (ps : List String) :
    (∀ m, Matcher.compile ps = .ok m →
      ∀ d, m.accepts d = true ↔ ∃ p ∈ ps, Pattern.TextAccepts p d) ∧
    ((∃ e, Matcher.compile ps = .error e) ↔ ∃ p ∈ ps, Pattern.TextRefused p) := by
  constructor
  · intro m hm d
    cases hpats : ps.mapM Pattern.compile with
    | error e =>
      rw [Matcher.compile, hpats] at hm
      cases hm
    | ok pats =>
      rw [Matcher.compile, hpats] at hm
      cases hm
      rw [Matcher.accepts, Matcher.check, Matcher.checkAny_snd, List.any_of_mapM_eq_ok hpats,
        List.any_eq_true]
      refine exists_congr fun p => and_congr_right fun hp => ?_
      -- each written pattern compiled, so its compiled form decides
      obtain ⟨pat, hpat⟩ := exists_ok_of_mapM hpats p hp
      rw [hpat, ← Pattern.compile_accepts hpat d]
      rfl
  · have hrefused : ∀ p, (∃ e, Pattern.compile p = .error e) ↔ Pattern.TextRefused p :=
      Pattern.compile_error_iff
    simp only [← hrefused, ← mapM_eq_error_iff]
    unfold Matcher.compile
    cases ps.mapM Pattern.compile <;> simp [Except.map]

/-- The pattern `*:*:1.0` compiles, and accepts a dependency at version `1.0` as its text says;
a blank pattern is refused, and with it the list it stands in. -/
theorem compile_follows_text_versionPattern :
    (∃ m, Matcher.compile ["*:*:1.0"] = .ok m ∧
      m.accepts ⟨⟨"org.example", "lib", "jar", "", "1.0"⟩, "compile", false⟩ = true ∧
      Pattern.TextAccepts "*:*:1.0" ⟨⟨"org.example", "lib", "jar", "", "1.0"⟩, "compile", false⟩) ∧
    Pattern.TextRefused " " ∧ ∃ e, Matcher.compile ["*:*:1.0", " "] = .error e := by
  have hblank : Pattern.TextRefused " " := .inl (by decide)
  have hcut : ("*:*:1.0").splitOn ":" = ["*", "*", "1.0"] := by
    rw [show ":" = String.ofList [':'] from rfl, Text.splitOn_char]
    decide
  have htrim : Text.trim "*:*:1.0" = "*:*:1.0" := by decide
  have hpat : Pattern.compile "*:*:1.0" = .ok ⟨[.anything, .anything, .version ⟨"1.0"⟩]⟩ := by
    simp only [Pattern.compile, htrim, hcut]
    rfl
  have hm : Matcher.compile ["*:*:1.0"] = .ok ⟨[⟨[.anything, .anything, .version ⟨"1.0"⟩]⟩]⟩ := by
    simp [Matcher.compile, hpat, Except.map]
  have hacc : Matcher.accepts ⟨[⟨[.anything, .anything, .version ⟨"1.0"⟩]⟩]⟩
      ⟨⟨"org.example", "lib", "jar", "", "1.0"⟩, "compile", false⟩ = true := by
    decide
  -- the matcher accepts, so the one written pattern does
  obtain ⟨p, hp, htext⟩ := ((compile_follows_text ["*:*:1.0"]).1 _ hm _).1 hacc
  rw [List.mem_singleton.1 hp] at htext
  exact ⟨⟨_, hm, hacc, htext⟩, hblank,
    (compile_follows_text ["*:*:1.0", " "]).2.2 ⟨" ", by simp, hblank⟩⟩

end Matcher

end PinAudit
