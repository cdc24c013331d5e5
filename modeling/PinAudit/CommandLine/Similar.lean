/-!
# Similar names

When a command line names an argument or a subcommand that does not exist, the closest
existing name is suggested. Closeness is the Jaro similarity of the two names: with `m` the
characters that match (equal characters at most `max(|a|, |b|) / 2 - 1` places apart, each
character used once, in order of the first name) and `t` half the matched characters that
stand in a different order, it is `(m/|a| + m/|b| + (m - t)/m) / 3`, and `0` when nothing
matches. A name is suggested when its similarity exceeds `0.7`; among several, the most
similar, and among equally similar ones the last.

Similarities are computed in double precision, each division and sum rounded, and compared
with the double nearest to `0.7`: a similarity of exactly seven tenths, such as that of
`chexxx` and `check`, comes out just above it, so such names are suggested.

Main definitions: `jaro`, `similarNames`, `suggest`.
-/

namespace PinAudit.CommandLine

/-- The double nearest to `0.7`, the similarity a suggestion must exceed. -/
def threshold : Float := Float.ofBits 0x3FE6666666666666

/-- The similarity exceeds `0.7`. -/
def isClose (s : Float) : Bool := threshold < s

/-- The first unused position of `b` within `[lo, hi)` holding `c`, if any. -/
def findMatch (c : Char) (b : List Char) (used : List Bool) (lo hi : Nat) : Option Nat :=
  ((List.range hi).drop lo).find? fun j => b[j]? == some c && used[j]? == some false

/-- Mark a position used. -/
def markUsed (used : List Bool) (j : Nat) : List Bool := used.set j true

/-- Match the characters of `a` against `b` in order: which of `a` matched, and which
positions of `b` were used. -/
def matchAll (a b : List Char) (range : Nat) : List Bool × List Bool :=
  let step (acc : List Bool × List Bool × Nat) (c : Char) : List Bool × List Bool × Nat :=
    let (flags, used, i) := acc
    let lo := i - range
    let hi := min b.length (i + range + 1)
    match findMatch c b used lo hi with
    | some j => (flags ++ [true], markUsed used j, i + 1)
    | none => (flags ++ [false], used, i + 1)
  let (flags, used, _) := a.foldl step ([], List.replicate b.length false, 0)
  (flags, used)

/-- The characters of a text at the flagged positions. -/
def flagged (cs : List Char) (flags : List Bool) : List Char :=
  (cs.zip flags).filterMap fun (c, f) => if f then some c else none

/-- **The Jaro similarity** of two names. -/
def jaro (a b : String) : Float :=
  let as := a.toList
  let bs := b.toList
  if as.isEmpty && bs.isEmpty then 1
  else if as.isEmpty || bs.isEmpty then 0
  else
    let range := max as.length bs.length / 2 - 1
    let (aFlags, bFlags) := matchAll as bs range
    let ma := flagged as aFlags
    let mb := flagged bs bFlags
    let m := ma.length
    if m == 0 then 0
    else
      let t := ((ma.zip mb).filter fun (x, y) => x != y).length / 2
      (m.toFloat / as.length.toFloat + m.toFloat / bs.length.toFloat +
        (m - t).toFloat / m.toFloat) / Float.ofNat 3

/-- The names similar enough to `name`, from the least to the most similar (equally similar
ones in the order given). -/
def similarNames (name : String) (candidates : List String) : List String :=
  let scored := (candidates.map fun c => (jaro name c, c)).filter (isClose ·.1)
  (scored.mergeSort fun x y => !(y.1 < x.1)).map Prod.snd

/-- **The name to suggest** for `name` among `candidates`: the most similar of those similar
enough, the last of equally similar ones. -/
def suggest (name : String) (candidates : List String) : Option String :=
  let scored := (candidates.map fun c => (jaro name c, c)).filter (isClose ·.1)
  (scored.foldl (fun best sc =>
    match best with
    | some (s, _) => if sc.1 < s then best else some sc
    | none => some sc) none).map Prod.snd

end PinAudit.CommandLine
