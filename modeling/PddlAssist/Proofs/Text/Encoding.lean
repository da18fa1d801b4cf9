import PddlAssist.Proofs.Text.Case
import PddlAssist.Text.Utf8

namespace PddlAssist.Text

theorem encode_append (left right : List Char) : encode (left ++ right) = encode left ++ encode right :=
  List.flatMap_append

theorem encode_cons (c : Char) (cs : List Char) : encode (c :: cs) = String.utf8EncodeChar c ++ encode cs :=
  List.flatMap_cons

theorem encode_eq_nil_iff {cs : List Char} : encode cs = [] ↔ cs = [] := by
  cases cs with
  | nil => exact ⟨fun _ => rfl, fun _ => rfl⟩
  | cons c cs => simp [encode_cons, String.utf8EncodeChar_ne_nil]

theorem length_encode (cs : List Char) : (encode cs).length = width cs := by
  induction cs with
  | nil => rfl
  | cons c cs ih => rw [encode_cons, List.length_append, String.length_utf8EncodeChar, ih, width_cons]

theorem utf8EncodeChar_ascii {c : Char} (ascii : c.toNat < 0x80) :
    String.utf8EncodeChar c = [UInt8.ofNat c.toNat] := if_pos (Nat.le_of_lt_succ ascii)

theorem le_of_mem_utf8EncodeChar {c : Char} (wide : 0x80 ≤ c.toNat) {b : UInt8}
    (member : b ∈ String.utf8EncodeChar c) : 0x80 ≤ b.toNat := by
  have notAscii : ¬c.val.toNat ≤ 0x7f := Nat.not_le.mpr wide
  simp only [String.utf8EncodeChar, notAscii, if_false] at member
  split at member
  · simp only [List.mem_cons, List.not_mem_nil, or_false] at member
    rcases member with rfl | rfl <;> simp only [UInt8.toNat_ofNat'] <;> omega
  split at member
  · simp only [List.mem_cons, List.not_mem_nil, or_false] at member
    rcases member with rfl | rfl | rfl <;> simp only [UInt8.toNat_ofNat'] <;> omega
  · simp only [List.mem_cons, List.not_mem_nil, or_false] at member
    rcases member with rfl | rfl | rfl | rfl <;> simp only [UInt8.toNat_ofNat'] <;> omega

theorem toNat_ofNat_ascii {n : Nat} (ascii : n < 0x80) : (UInt8.ofNat n).toNat = n := by
  rw [UInt8.toNat_ofNat', Nat.mod_eq_of_lt (by omega)]

theorem encode_eq_append_cons {cs : List Char} {p q : Bytes} {b : UInt8} (ascii : b.toNat < 0x80)
    (split : encode cs = p ++ b :: q) :
    ∃ before c after, cs = before ++ c :: after ∧ encode before = p ∧ encode after = q ∧ c.toNat = b.toNat := by
  induction cs generalizing p with
  | nil => simp [encode] at split
  | cons c cs ih =>
    rw [encode_cons] at split
    rcases List.append_eq_append_iff.mp split with ⟨m, rfl, later⟩ | ⟨m, first, later⟩
    · obtain ⟨before, d, after, rfl, isBefore, isAfter, same⟩ := ih later
      exact ⟨c :: before, d, after, rfl, by rw [encode_cons, isBefore], isAfter, same⟩
    · cases m with
      | nil =>
        rw [List.append_nil] at first
        obtain ⟨before, d, after, rfl, isBefore, isAfter, same⟩ := ih (p := []) later.symm
        exact ⟨c :: before, d, after, rfl, by rw [encode_cons, isBefore, first, List.append_nil], isAfter, same⟩
      | cons d m =>
        obtain ⟨rfl, isRest⟩ := List.cons.inj later
        by_cases wide : 0x80 ≤ c.toNat
        · have high := le_of_mem_utf8EncodeChar wide (b := b) (by simp [first])
          omega
        · rw [utf8EncodeChar_ascii (Nat.lt_of_not_le wide), List.singleton_eq_append_iff] at first
          simp only [List.cons.injEq, reduceCtorEq, and_false, or_false] at first
          obtain ⟨rfl, isByte, rfl⟩ := first
          exact ⟨[], c, cs, rfl, rfl, isRest.symm, by rw [isByte, toNat_ofNat_ascii (Nat.lt_of_not_le wide)]⟩

theorem encode_eq_append_cons_iff {c : Char} (ascii : c.toNat < 0x80) {cs : List Char} {p q : Bytes} :
    encode cs = p ++ UInt8.ofNat c.toNat :: q ↔
      ∃ before after, cs = before ++ c :: after ∧ encode before = p ∧ encode after = q := by
  have value := toNat_ofNat_ascii ascii
  constructor
  · intro split
    obtain ⟨before, d, after, rfl, isBefore, isAfter, same⟩ := encode_eq_append_cons (by rwa [value]) split
    rw [value, Char.toNat_inj] at same
    exact ⟨before, after, by rw [same], isBefore, isAfter⟩
  · rintro ⟨before, after, rfl, rfl, rfl⟩
    rw [encode_append, encode_cons, utf8EncodeChar_ascii ascii]
    rfl

theorem getElem?_encode_iff {c : Char} (ascii : c.toNat < 0x80) {cs : List Char} {n : Nat} :
    (encode cs)[n]? = some (UInt8.ofNat c.toNat) ↔ ∃ before after, cs = before ++ c :: after ∧ width before = n := by
  constructor
  · intro found
    obtain ⟨within, isByte⟩ := List.getElem?_eq_some_iff.mp found
    have split : encode cs = (encode cs).take n ++ UInt8.ofNat c.toNat :: (encode cs).drop (n + 1) := by
      rw [← isByte, ← List.drop_eq_getElem_cons within, List.take_append_drop]
    obtain ⟨before, after, whole, isBefore, -⟩ := (encode_eq_append_cons_iff ascii).mp split
    refine ⟨before, after, whole, ?_⟩
    rw [← length_encode, isBefore, List.length_take, Nat.min_eq_left (Nat.le_of_lt within)]
  · rintro ⟨before, after, whole, rfl⟩
    rw [(encode_eq_append_cons_iff ascii).mpr ⟨before, after, whole, rfl, rfl⟩, ← length_encode,
      List.getElem?_append_right (Nat.le_refl _), Nat.sub_self]
    rfl

theorem mem_encode_iff {cs : List Char} {c : Char} (ascii : c.toNat < 0x80) :
    UInt8.ofNat c.toNat ∈ encode cs ↔ c ∈ cs := by
  constructor
  · intro member
    obtain ⟨p, q, split⟩ := List.append_of_mem member
    obtain ⟨before, after, rfl, -⟩ := (encode_eq_append_cons_iff ascii).mp split
    simp
  · intro member
    exact List.mem_flatMap.mpr ⟨c, member, by simp [utf8EncodeChar_ascii ascii]⟩

theorem getLast?_encode_iff {c : Char} (ascii : c.toNat < 0x80) {cs : List Char} :
    (encode cs).getLast? = some (UInt8.ofNat c.toNat) ↔ cs.getLast? = some c := by
  simp only [List.getLast?_eq_some_iff, encode_eq_append_cons_iff ascii, encode_eq_nil_iff]
  constructor
  · rintro ⟨_, before, _, whole, -, rfl⟩
    exact ⟨before, whole⟩
  · rintro ⟨before, whole⟩
    exact ⟨_, before, [], whole, rfl, rfl⟩

theorem head?_encode_iff {c : Char} (ascii : c.toNat < 0x80) {cs : List Char} :
    (encode cs).head? = some (UInt8.ofNat c.toNat) ↔ cs.head? = some c := by
  simp only [List.head?_eq_some_iff]
  constructor
  · rintro ⟨rest, split⟩
    obtain ⟨_, after, whole, nothing, -⟩ := (encode_eq_append_cons_iff (p := []) ascii).mp split
    exact ⟨after, by rw [whole, encode_eq_nil_iff.mp nothing, List.nil_append]⟩
  · rintro ⟨after, whole⟩
    exact ⟨encode after, (encode_eq_append_cons_iff (p := []) ascii).mpr ⟨[], after, whole, rfl, rfl⟩⟩

/-- A class of bytes that holds the bytes of the characters of another class, and of no others. -/
def Mirrors (p : UInt8 → Bool) (q : Char → Bool) : Prop :=
  ∀ c, ∀ b ∈ String.utf8EncodeChar c, p b = q c

section

variable {p p' : UInt8 → Bool} {q q' : Char → Bool}

theorem mirrors_beq {d : Char} (ascii : d.toNat < 0x80) : Mirrors (· == d.toUInt8) (· == d) := by
  intro c b member
  have value : d.toUInt8.toNat = d.toNat := toNat_ofNat_ascii ascii
  have isByte : b = d.toUInt8 ↔ c = d := by
    rw [← UInt8.toNat_inj, value, ← Char.toNat_inj]
    by_cases wide : 0x80 ≤ c.toNat
    · have high := le_of_mem_utf8EncodeChar wide member
      omega
    · rw [utf8EncodeChar_ascii (Nat.lt_of_not_le wide), List.mem_singleton] at member
      rw [member, toNat_ofNat_ascii (Nat.lt_of_not_le wide)]
  exact Bool.eq_iff_iff.mpr (by simpa using isByte)

theorem Mirrors.not (mirrors : Mirrors p q) : Mirrors (!p ·) (!q ·) :=
  fun c b member => congrArg (!·) (mirrors c b member)

theorem Mirrors.and (left : Mirrors p q) (right : Mirrors p' q') : Mirrors (fun b => p b && p' b) fun c => q c && q' c :=
  fun c b member => by simp only [left c b member, right c b member]

theorem Mirrors.or (left : Mirrors p q) (right : Mirrors p' q') : Mirrors (fun b => p b || p' b) fun c => q c || q' c :=
  fun c b member => by simp only [left c b member, right c b member]

theorem Mirrors.takeWhile_encode (mirrors : Mirrors p q) (cs : List Char) :
    (encode cs).takeWhile p = encode (cs.takeWhile q) := by
  induction cs with
  | nil => rfl
  | cons c cs ih =>
    rw [encode_cons]
    cases holds : q c with
    | true =>
      have all : ∀ b ∈ String.utf8EncodeChar c, p b = true := fun b member => by rw [mirrors c b member, holds]
      rw [List.takeWhile_append_of_pos all, ih, List.takeWhile_cons_of_pos holds, encode_cons]
    | false =>
      obtain ⟨b, bytes, first⟩ := List.exists_cons_of_ne_nil (String.utf8EncodeChar_ne_nil (c := c))
      have fails : ¬ p b = true := by
        rw [mirrors c b (by simp [first]), holds]
        exact Bool.false_ne_true
      rw [first, List.cons_append, List.takeWhile_cons_of_neg fails, List.takeWhile_cons_of_neg (by simp [holds])]
      rfl

end

def lowerByte (b : UInt8) : UInt8 := if 'A'.toUInt8 ≤ b ∧ b ≤ 'Z'.toUInt8 then b + 32 else b

theorem lowerByte_of_le {b : UInt8} (high : 0x80 ≤ b.toNat) : lowerByte b = b := by
  refine if_neg fun letter => ?_
  have below : b.toNat ≤ 90 := letter.2
  omega

theorem lowerByte_ascii {c : Char} (ascii : c.toNat < 0x80) :
    lowerByte (UInt8.ofNat c.toNat) = UInt8.ofNat c.toLower.toNat := by
  have lowered : ∀ n < 128, lowerByte (UInt8.ofNat n) = UInt8.ofNat (Char.ofNat n).toLower.toNat := by decide
  have here := lowered c.toNat ascii
  rwa [Char.ofNat_toNat] at here

theorem toLower_ascii {c : Char} (ascii : c.toNat < 0x80) : c.toLower.toNat < 0x80 := by
  rw [toNat_toLower]
  split <;> omega

theorem toNat_lowerByte {c : Char} (ascii : c.toNat < 0x80) {b : UInt8} (same : c.toNat = b.toNat) :
    (lowerByte b).toNat = c.toLower.toNat := by
  have isByte : b = UInt8.ofNat c.toNat := by rw [same, UInt8.ofNat_toNat]
  rw [isByte, lowerByte_ascii ascii, toNat_ofNat_ascii (toLower_ascii ascii)]

theorem utf8EncodeChar_toLower (c : Char) :
    String.utf8EncodeChar c.toLower = (String.utf8EncodeChar c).map lowerByte := by
  by_cases wide : 0x80 ≤ c.toNat
  · have same : c.toLower = c := by
      rw [← Char.toNat_inj, toNat_toLower]
      exact if_neg (by omega)
    have kept := List.map_congr_left fun b member => lowerByte_of_le (le_of_mem_utf8EncodeChar wide (b := b) member)
    rw [same, kept, List.map_id']
  · have ascii := Nat.lt_of_not_le wide
    rw [utf8EncodeChar_ascii (toLower_ascii ascii), utf8EncodeChar_ascii ascii, List.map_singleton, lowerByte_ascii ascii]

theorem encode_map_toLower (cs : List Char) : encode (cs.map Char.toLower) = (encode cs).map lowerByte := by
  induction cs with
  | nil => rfl
  | cons c cs ih => rw [List.map_cons, encode_cons, encode_cons, utf8EncodeChar_toLower, ih, List.map_append]

theorem letter_of_encode {n : Char} (ascii : n.toNat < 0x80) {b : UInt8} (same : lowerByte b = lowerByte (UInt8.ofNat n.toNat))
    {cs : List Char} {p q : Bytes} (split : encode cs = p ++ b :: q) :
    ∃ before c after, cs = before ++ c :: after ∧ encode before = p ∧ encode after = q ∧ c.toLower = n.toLower := by
  have lowered : (lowerByte b).toNat = n.toLower.toNat := by
    rw [same, toNat_lowerByte ascii (toNat_ofNat_ascii ascii).symm]
  have isAscii : b.toNat < 0x80 := Nat.lt_of_not_le fun high => by
    rw [lowerByte_of_le high] at lowered
    exact absurd (toLower_ascii ascii) (by omega)
  obtain ⟨before, c, after, rfl, isBefore, isAfter, isByte⟩ := encode_eq_append_cons isAscii split
  refine ⟨before, c, after, rfl, isBefore, isAfter, ?_⟩
  rw [← Char.toNat_inj, ← lowered, toNat_lowerByte (isByte ▸ isAscii) isByte]

theorem spelled_of_encode {word cs : List Char} (ascii : ∀ c ∈ word, c.toNat < 0x80) {written after : Bytes}
    (whole : encode cs = written ++ after) (same : written.map lowerByte = (encode word).map lowerByte) :
    ∃ spelled rest, cs = spelled ++ rest ∧ encode rest = after ∧ spelled.map Char.toLower = word.map Char.toLower := by
  induction word generalizing cs written with
  | nil =>
    have nothing : written = [] := by simpa [encode] using same
    exact ⟨[], cs, rfl, by rw [whole, nothing, List.nil_append], rfl⟩
  | cons n word ih =>
    rw [List.forall_mem_cons] at ascii
    rw [encode_cons, utf8EncodeChar_ascii ascii.1, List.singleton_append, List.map_cons] at same
    obtain ⟨b, written, rfl, isFirst, isRest⟩ := List.map_eq_cons_iff.mp same
    obtain ⟨before, c, later, rfl, isBefore, isLater, sameFirst⟩ := letter_of_encode (p := []) ascii.1 isFirst whole
    obtain ⟨spelled, rest, rfl, isAfter, sameRest⟩ := ih ascii.2 isLater isRest
    refine ⟨c :: spelled, rest, ?_, isAfter, by rw [List.map_cons, List.map_cons, sameFirst, sameRest]⟩
    rw [encode_eq_nil_iff.mp isBefore, List.nil_append, List.cons_append]

end PddlAssist.Text
