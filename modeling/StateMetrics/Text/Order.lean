/-! # Orders on texts

Texts are ordered by their characters' code points, which is the order of their UTF-8 bytes;
tuples of texts are ordered lexicographically. -/

namespace StateMetrics.Text

/-- Whether one list of texts comes before or equals another, lexicographically. -/
def lexLe : List String → List String → Bool
  | [], _ => true
  | _ :: _, [] => false
  | x :: xs, y :: ys => x < y || (x == y && lexLe xs ys)

/-- Sorts by a key of texts, keeping the order of equal keys. -/
def sortByTexts {α : Type} (key : α → List String) (l : List α) : List α :=
  l.mergeSort fun a b => lexLe (key a) (key b)

end StateMetrics.Text
