/-!
Sets of characters given as ranges of code points. The operations keep ranges ascending and apart;
surrogates belong to no set. Main statement: a union holds what one of its parts holds.
-/

namespace Registrar.Text

/-- The ends of each range belong to it. -/
abbrev Ranges := List (Nat × Nat)

namespace Ranges

def contains (table : Ranges) (n : Nat) : Bool :=
  table.any fun (low, high) => low ≤ n && n ≤ high

def single (n : Nat) : Ranges := [(n, n)]

/-- Puts a range in front of the first one that does not begin before it; `rest` goes on with the
ranges from there. -/
def place (r : Nat × Nat) (rest : Ranges → Ranges) : Ranges → Ranges
  | [] => r :: rest []
  | s :: b => if r.1 ≤ s.1 then r :: rest (s :: b) else s :: place r rest b

/-- The ranges of both tables, by their lower ends. -/
def interleave : Ranges → Ranges → Ranges
  | [] => id
  | r :: a => place r (interleave a)

/-- Makes one range of those that overlap or touch. -/
def joinFrom (low high : Nat) : Ranges → Ranges
  | [] => [(low, high)]
  | (c, d) :: r =>
    if c ≤ high + 1 ∧ low ≤ d + 1 then joinFrom (min low c) (max high d) r
    else (low, high) :: joinFrom c d r

def join : Ranges → Ranges
  | [] => []
  | (low, high) :: r => joinFrom low high r

def union (a b : Ranges) : Ranges := join (interleave a b)

/-- The characters from `low` on that are in none of the ranges. -/
def gaps (low : Nat) : Ranges → Ranges
  | [] => if low ≤ 0x10FFFF then [(low, 0x10FFFF)] else []
  | (c, d) :: r =>
    if low < c then (low, c - 1) :: gaps (max low (d + 1)) r else gaps (max low (d + 1)) r

/-- All characters that are not in the set. -/
def compl (a : Ranges) : Ranges := gaps 0 (union a [(0xD800, 0xDFFF)])

def inter (a b : Ranges) : Ranges := compl (union (compl a) (compl b))

def diff (a b : Ranges) : Ranges := compl (union (compl a) b)

def symmDiff (a b : Ranges) : Ranges := union (diff a b) (diff b a)

def unions (tables : List Ranges) : Ranges := tables.foldl union []

@[simp] theorem contains_nil (n : Nat) : contains [] n = false := rfl

@[simp] theorem contains_cons (r : Nat × Nat) (a : Ranges) (n : Nat) :
    contains (r :: a) n = (decide (r.1 ≤ n ∧ n ≤ r.2) || a.contains n) := by
  simp [contains]

theorem contains_place {r : Nat × Nat} {a : Ranges} {rest : Ranges → Ranges} {n : Nat}
    (h : ∀ b, (rest b).contains n = (a.contains n || b.contains n)) (b : Ranges) :
    (place r rest b).contains n = (contains (r :: a) n || b.contains n) := by
  induction b with
  | nil => simp [place, h]
  | cons s b ih =>
    unfold place
    split
    · simp [h, Bool.or_assoc]
    · rw [contains_cons, ih, contains_cons s, ← Bool.or_assoc, ← Bool.or_assoc]
      exact congrArg (· || contains b n) (Bool.or_comm _ _)

theorem contains_interleave (a b : Ranges) (n : Nat) :
    (interleave a b).contains n = (a.contains n || b.contains n) := by
  induction a generalizing b with
  | nil => simp [interleave]
  | cons r a ih => exact contains_place ih b

theorem contains_joinFrom (low high : Nat) (a : Ranges) (n : Nat) :
    (joinFrom low high a).contains n = contains ((low, high) :: a) n := by
  induction a generalizing low high with
  | nil => rfl
  | cons r a ih =>
    obtain ⟨c, d⟩ := r
    unfold joinFrom
    split
    · next touching =>
      rw [ih, contains_cons, contains_cons, contains_cons, ← Bool.or_assoc, ← Bool.decide_or]
      exact congrArg (· || contains a n) (decide_eq_decide.mpr (by grind))
    · rw [contains_cons, ih, contains_cons (low, high)]

theorem contains_union (a b : Ranges) (n : Nat) :
    (union a b).contains n = (a.contains n || b.contains n) := by
  rw [← contains_interleave]
  unfold union join
  split
  · next h => rw [h]
  · next h => rw [h, contains_joinFrom]

end Ranges
end Registrar.Text
