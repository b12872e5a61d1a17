import StateMetrics.Decimal.Basic

/-! # Similarity of names

An unknown flag is answered with the known flag most similar to it, if one is similar enough.
Similarity is the Jaro similarity of the two names. Each character of the first name, in
order, matches the first unmatched equal character of the second within half the longer
length less one of its position. Half the matched characters that differ when both names'
matched characters are paired in order count as transpositions (rounded down). The score,
in double precision, is the sum of the matches over each length and the untransposed share
of the matches, divided by three. -/

namespace StateMetrics.Flags

/-- The first position of `b` from `lo` to `hi` that holds `c` and is not yet matched. -/
def firstMatch (b : List Char) (matched : List Bool) (c : Char) (lo hi : Nat) : Option Nat :=
  (List.range (hi + 1)).find? fun j => lo ≤ j && b[j]? == some c && matched[j]? == some false

/-- Matches the characters of `a`, from position `i` on, against `b`. Gives the matched
characters of `a` in order and marks the matched positions of `b`. -/
def matchFrom (b : List Char) (range : Nat) :
    List Char → Nat → List Char × List Bool → List Char × List Bool
  | [], _, st => st
  | c :: rest, i, (found, matched) =>
    match firstMatch b matched c (i - range) (min (b.length - 1) (i + range)) with
    | some j => matchFrom b range rest (i + 1) (found ++ [c], matched.set j true)
    | none => matchFrom b range rest (i + 1) (found, matched)

/-- The Jaro similarity of two names, from zero to one. -/
def jaro (s t : String) : Float :=
  let a := s.toList
  let b := t.toList
  if a.isEmpty && b.isEmpty then 1.0
  else if a.isEmpty || b.isEmpty then 0.0
  else
    let range := max a.length b.length / 2 - 1
    let (found, matched) := matchFrom b range a 0 ([], List.replicate b.length false)
    let fromB := (b.zip matched).filterMap fun (c, m) => if m then some c else none
    let m := found.length
    let t := ((found.zip fromB).filter fun (x, y) => x != y).length / 2
    if m = 0 then 0.0
    else
      (m.toFloat / a.length.toFloat + m.toFloat / b.length.toFloat +
        (m - t).toFloat / m.toFloat) / 3.0

/-- Seven tenths, the least similarity a suggestion must exceed. -/
def suggestionThreshold : Float := floatOfBits false 0x3FE6666666666666

/-- The candidate most similar to a name, above the threshold; of equally similar candidates
the last. -/
def mostSimilar (name : String) (candidates : List String) : Option String :=
  let scored := (candidates.map fun c => (jaro name c, c)).filter fun (score, _) =>
    score > suggestionThreshold
  (scored.foldl (fun best (score, c) => match best with
    | some (b, _) => if score ≥ b then some (score, c) else best
    | none => some (score, c)) none).map (·.2)

end StateMetrics.Flags
