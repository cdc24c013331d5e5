/-!
# Shortest decimal digits of a double

A finite double `x = m · 2^q` stands for every real that rounds to it: the reals between the
midpoints to its two neighbours, the midpoints included exactly when `m` is even (a tie rounds
to the even mantissa). The *shortest digits* of `x` are the decimal `d · 10^k` of fewest
significant digits inside that interval; of two such, the one nearer to `x`, and of two equally
near, the one with the even last digit. All comparisons are exact, in natural numbers.

Main definitions: `Double.decode`, `Double.shortest`, and the two layouts `Double.scientific`
(digits with a point, switching to a signed exponent outside `1e-5 ≤ |x| < 1e16`) and
`Double.plain` (never an exponent).
-/

namespace PinAudit.Double

/-- A finite, non-zero double as `m · 2^q`, with its sign. -/
structure Decoded where
  negative : Bool
  mantissa : Nat
  exponent : Int
  /-- The lower neighbour is nearer than the upper one (a power of two above the least
  normal exponent). -/
  boundary : Bool

/-- The sign bit of a double's bit pattern. -/
def signBit (bits : UInt64) : Bool := bits >>> 63 == 1

/-- The biased exponent field. -/
def exponentField (bits : UInt64) : Nat := ((bits >>> 52) &&& 0x7FF).toNat

/-- The fraction field. -/
def fractionField (bits : UInt64) : Nat := (bits &&& 0xFFFFFFFFFFFFF).toNat

/-- A double's bit pattern is finite when its exponent field is not all ones. -/
def isFinite (bits : UInt64) : Bool := exponentField bits != 0x7FF

/-- A double is zero when all bits but the sign are clear. -/
def isZero (bits : UInt64) : Bool := exponentField bits == 0 && fractionField bits == 0

/-- **Decode** a finite non-zero double. -/
def decode (bits : UInt64) : Decoded :=
  let e := exponentField bits
  let f := fractionField bits
  if e == 0 then ⟨signBit bits, f, -1074, false⟩
  else ⟨signBit bits, f + Nat.pow 2 52, (e : Int) - 1075, f == 0 && e > 1⟩

/-- `a · 10^ka` compared with `b · 2^kb`, exactly. -/
def compareScaled (a : Nat) (ka : Int) (b : Nat) (kb : Int) : Ordering :=
  let lhs := a * Nat.pow 10 ka.toNat * Nat.pow 2 (-kb).toNat
  let rhs := b * Nat.pow 2 kb.toNat * Nat.pow 10 (-ka).toNat
  compare lhs rhs

/-- `⌊b · 2^kb / 10^ka⌋`. -/
def floorScaled (b : Nat) (kb : Int) (ka : Int) : Nat :=
  (b * Nat.pow 2 kb.toNat * Nat.pow 10 (-ka).toNat) / (Nat.pow 10 ka.toNat * Nat.pow 2 (-kb).toNat)

/-- The number of decimal digits of a positive number. -/
def digitCount (n : Nat) : Nat := (Nat.toDigits 10 n).length

/-- The decimal exponent of `m · 2^q`: the `e` with `10^e ≤ m · 2^q < 10^(e+1)`. Starts from
an estimate by digit counts and corrects it by at most a few steps. -/
def decimalExponent (m : Nat) (q : Int) : Int :=
  let est : Int :=
    if q ≥ 0 then (digitCount (m * Nat.pow 2 q.toNat) : Int) - 1
    else (digitCount m : Int) - (digitCount (Nat.pow 2 (-q).toNat) : Int)
  let up (e : Int) : Int := if compareScaled 1 (e + 1) m q != .gt then e + 1 else e
  let down (e : Int) : Int := if compareScaled 1 e m q == .gt then e - 1 else e
  up (up (down (down est)))

/-- Whether `d · 10^k` lies in the rounding interval of `x = m · 2^q`, given in quarter units
of `2^q`: `lo = 4m - 2` (or `4m - 1` at a boundary) and `hi = 4m + 2`, scaled by `2^(q-2)`. -/
def inInterval (x : Decoded) (d : Nat) (k : Int) : Bool :=
  let q := x.exponent - 2
  let lo := 4 * x.mantissa - (if x.boundary then 1 else 2)
  let hi := 4 * x.mantissa + 2
  let even := x.mantissa % 2 == 0
  let aboveLo := match compareScaled d k lo q with
    | .gt => true
    | .eq => even
    | .lt => false
  let belowHi := match compareScaled d k hi q with
    | .lt => true
    | .eq => even
    | .gt => false
  aboveLo && belowHi

/-- Of two candidates `d₁ · 10^k < d₂ · 10^k` in the interval, the nearer to `x`; a tie goes to
the even one. -/
def nearer (x : Decoded) (d₁ d₂ : Nat) (k : Int) : Nat :=
  -- compare 2x with (d₁ + d₂) · 10^k: above the midpoint, d₂ is nearer
  match compareScaled (d₁ + d₂) k (8 * x.mantissa) (x.exponent - 2) with
  | .lt => d₂
  | .gt => d₁
  | .eq => if d₁ % 2 == 0 then d₁ else d₂

/-- Remove trailing decimal zeros, raising the exponent. -/
def normalize : Nat → Nat → Int → Nat × Int
  | 0, d, k => (d, k)
  | fuel + 1, d, k =>
    if d != 0 && d % 10 == 0 then normalize fuel (d / 10) (k + 1) else (d, k)

/-- Try `n` significant digits, then more, up to 17; returns digits and exponent. -/
def search (x : Decoded) (e10 : Int) : Nat → Nat → Option (Nat × Int)
  | 0, _ => none
  | fuel + 1, n =>
    let k := e10 - (n : Int) + 1
    let d₁ := floorScaled x.mantissa x.exponent k
    let d₂ := d₁ + 1
    let in₁ := d₁ != 0 && inInterval x d₁ k
    let in₂ := inInterval x d₂ k
    if in₁ && in₂ then some (normalize 20 (nearer x d₁ d₂ k) k)
    else if in₁ then some (normalize 20 d₁ k)
    else if in₂ then some (normalize 20 d₂ k)
    else search x e10 fuel (n + 1)

/-- **Shortest digits** of a finite non-zero double: `(d, k)` with `|x| ≈ d · 10^k`, `d` without
trailing zeros. -/
def shortest (x : Decoded) : Nat × Int :=
  (search x (decimalExponent x.mantissa x.exponent) 17 1).getD (x.mantissa, 0)

/-- The decimal digits of a natural number. -/
def digitsOf (n : Nat) : String := String.ofList (Nat.toDigits 10 n)

/-- `n` zeros. -/
def zeros (n : Nat) : String := String.ofList (List.replicate n '0')

/-- **Exponent layout** of a double, as JSON writers print it: `0.0` for zero; positional with
at least one digit after the point when `1e-5 ≤ |x| < 1e16`; otherwise `d.ddde±x`, the
exponent always signed and not padded (a single digit has no point: `1e+30`, `1e-7`).
Non-finite values have no text here. -/
def scientific (bits : UInt64) : Option String :=
  if !isFinite bits then none
  else
    let sign := if signBit bits then "-" else ""
    if isZero bits then some (sign ++ "0.0")
    else
      let (d, k) := shortest (decode bits)
      let ds := digitsOf d
      let len : Int := ds.length
      let kk := len + k
      let body :=
        if 0 ≤ k ∧ kk ≤ 16 then ds ++ zeros k.toNat ++ ".0"
        else if 0 < kk ∧ kk ≤ 16 then
          String.ofList (ds.toList.take kk.toNat) ++ "." ++ String.ofList (ds.toList.drop kk.toNat)
        else if -5 < kk ∧ kk ≤ 0 then "0." ++ zeros (-kk).toNat ++ ds
        else
          let exp := kk - 1
          let expText := if exp < 0 then "-" ++ digitsOf (-exp).toNat else "+" ++ digitsOf exp.toNat
          if ds.length == 1 then ds ++ "e" ++ expText
          else String.ofList (ds.toList.take 1) ++ "." ++ String.ofList (ds.toList.drop 1) ++
            "e" ++ expText
      some (sign ++ body)

/-- **Plain layout** of a double: the shortest digits written positionally, never with an
exponent, and with no point for an integral value (`1`, `100000000000000000000`, `0.0000001`);
`inf`, `-inf` and `NaN` for the non-finite values. -/
def plain (bits : UInt64) : String :=
  let sign := if signBit bits then "-" else ""
  if !isFinite bits then
    if fractionField bits == 0 then sign ++ "inf" else "NaN"
  else if isZero bits then sign ++ "0"
  else
    let (d, k) := shortest (decode bits)
    let ds := digitsOf d
    let len : Int := ds.length
    let body :=
      if k ≥ 0 then ds ++ zeros k.toNat
      else if len + k > 0 then
        String.ofList (ds.toList.take (len + k).toNat) ++ "." ++
          String.ofList (ds.toList.drop (len + k).toNat)
      else "0." ++ zeros (-(len + k)).toNat ++ ds
    sign ++ body

/-- The plain layout with `.0` added to a finite value printed without a point. -/
def plainWithPoint (bits : UInt64) : String :=
  let t := plain bits
  if isFinite bits && !t.toList.contains '.' then t ++ ".0" else t

end PinAudit.Double
