namespace PddlAssist.Text

def width : List Char → Nat
  | [] => 0
  | c :: cs => c.utf8Size + width cs

@[simp] theorem width_nil : width [] = 0 := rfl

@[simp] theorem width_cons (c : Char) (cs : List Char) :
    width (c :: cs) = c.utf8Size + width cs := rfl

@[simp] theorem width_append (left right : List Char) :
    width (left ++ right) = width left + width right := by
  induction left with
  | nil => simp
  | cons c left ih => simp [ih, Nat.add_assoc]

/-- The characters that end at or before byte `n`. -/
def takeBytes : Nat → List Char → List Char
  | _, [] => []
  | n, c :: cs => if c.utf8Size ≤ n then c :: takeBytes (n - c.utf8Size) cs else []

def dropBytes : Nat → List Char → List Char
  | _, [] => []
  | n, c :: cs => if c.utf8Size ≤ n then dropBytes (n - c.utf8Size) cs else c :: cs

theorem takeBytes_append_dropBytes (n : Nat) (cs : List Char) :
    takeBytes n cs ++ dropBytes n cs = cs := by
  induction cs generalizing n with
  | nil => rfl
  | cons c cs ih =>
    simp only [takeBytes, dropBytes]
    split
    · simp [ih]
    · rfl

theorem takeBytes_width (left right : List Char) : takeBytes (width left) (left ++ right) = left := by
  induction left with
  | nil =>
    cases right with
    | nil => rfl
    | cons c cs => simp [takeBytes, Nat.not_le.mpr c.utf8Size_pos]
  | cons c cs ih => simp [takeBytes, ih]

theorem dropBytes_width (left right : List Char) : dropBytes (width left) (left ++ right) = right := by
  have whole := takeBytes_append_dropBytes (width left) (left ++ right)
  rw [takeBytes_width] at whole
  exact List.append_cancel_left whole

/-- A stretch of text: the bytes from `start` up to but not including `stop`. -/
structure Span where
  start : Nat
  stop : Nat
  deriving DecidableEq, Repr, Inhabited

def slice (cs : List Char) (span : Span) : List Char :=
  takeBytes (span.stop - span.start) (dropBytes span.start cs)

/-- `n` lies between two characters of `cs`, or at one of its ends. -/
def IsBoundary (cs : List Char) (n : Nat) : Prop := ∃ left right, cs = left ++ right ∧ width left = n

theorem isBoundary_iff {cs : List Char} {n : Nat} : IsBoundary cs n ↔ width (takeBytes n cs) = n := by
  constructor
  · rintro ⟨left, right, rfl, rfl⟩
    rw [takeBytes_width]
  · intro whole
    exact ⟨takeBytes n cs, dropBytes n cs, (takeBytes_append_dropBytes n cs).symm, whole⟩

instance (cs : List Char) (n : Nat) : Decidable (IsBoundary cs n) := decidable_of_iff _ isBoundary_iff.symm

end PddlAssist.Text
