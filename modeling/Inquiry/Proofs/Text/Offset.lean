/-!
Offsets in a text, counted in the bytes of its characters. Only an offset between two characters, or
at an end of the text, cuts it; any other is refused.
-/
namespace Inquiry.Text

def size : List Char → Nat
  | [] => 0
  | c :: rest => c.utf8Size + size rest

/-- The text before an offset and behind it, `none` where no two characters meet there. -/
def cut? : Nat → List Char → Option (List Char × List Char)
  | 0, text => some ([], text)
  | _ + 1, [] => none
  | offset + 1, c :: rest =>
    if c.utf8Size ≤ offset + 1 then
      (cut? (offset + 1 - c.utf8Size) rest).map fun (front, back) => (c :: front, back)
    else none

def slice? (first last : Nat) (text : List Char) : Option (List Char) :=
  if first ≤ last then do
    let (_, rest) ← cut? first text
    let (part, _) ← cut? (last - first) rest
    return part
  else none

def IsOffset (text : List Char) (offset : Nat) : Prop :=
  ∃ front back, text = front ++ back ∧ size front = offset

def StandsAt (text : List Char) (offset : Nat) (c : Char) : Prop :=
  c.utf8Size = 1 ∧ ∃ front back, text = front ++ c :: back ∧ size front = offset

section Offsets

variable {text front part back : List Char} {offset first last : Nat} {c : Char}

@[simp] theorem size_nil : size [] = 0 := rfl

@[simp] theorem size_cons (c : Char) (text : List Char) : size (c :: text) = c.utf8Size + size text :=
  rfl

@[simp] theorem size_append (front back : List Char) : size (front ++ back) = size front + size back := by
  induction front with
  | nil => exact (Nat.zero_add _).symm
  | cons c front ih => rw [List.cons_append, size_cons, size_cons, ih, Nat.add_assoc]

theorem cut_append (front back : List Char) : cut? (size front) (front ++ back) = some (front, back) := by
  induction front with
  | nil => rw [List.nil_append, size_nil, cut?.eq_def]
  | cons c front ih =>
    obtain ⟨bytes, same⟩ := Nat.exists_eq_succ_of_ne_zero (Nat.ne_of_gt c.utf8Size_pos)
    have sum : size (c :: front) = bytes + size front + 1 := by
      rw [size_cons, same]
      omega
    have rest : bytes + size front + 1 - c.utf8Size = size front := by omega
    rw [sum, List.cons_append, cut?, if_pos (by omega), rest, ih]
    rfl

theorem cut_inv (found : cut? offset text = some (front, back)) :
    text = front ++ back ∧ size front = offset := by
  fun_induction cut? offset text generalizing front with
  | case1 text =>
    cases found
    exact ⟨rfl, rfl⟩
  | case2 => cases found
  | case3 offset c rest within ih =>
    obtain ⟨⟨front, back⟩, found, same⟩ := Option.map_eq_some_iff.1 found
    cases same
    obtain ⟨rfl, bytes⟩ := ih found
    refine ⟨rfl, ?_⟩
    rw [size_cons, bytes]
    omega
  | case4 => cases found

theorem slice_append (front part back : List Char) :
    slice? (size front) (size front + size part) (front ++ (part ++ back)) = some part := by
  rw [slice?, if_pos (Nat.le_add_right _ _), cut_append, Nat.add_sub_cancel_left]
  simp only [bind, Option.bind_some, cut_append]
  rfl

theorem slice_inv (found : slice? first last text = some part) :
    first ≤ last ∧ IsOffset text first ∧ IsOffset text last := by
  rw [slice?] at found
  split at found
  next ordered =>
    obtain ⟨⟨front, rest⟩, begun, found⟩ := Option.bind_eq_some_iff.1 found
    obtain ⟨⟨middle, back⟩, ended, -⟩ := Option.bind_eq_some_iff.1 found
    obtain ⟨rfl, rfl⟩ := cut_inv begun
    obtain ⟨rfl, bytes⟩ := cut_inv ended
    refine ⟨ordered, ⟨front, _, rfl, rfl⟩, front ++ middle, back, by simp, ?_⟩
    rw [size_append, bytes]
    omega
  next => cases found

end Offsets

end Inquiry.Text
