import DcgmDiag.Software.Permissions

/-!
# `CountDevEntry` on the bytes of a name

`countDevEntry` reads an entry name as the characters of a string.  `CountDevEntry` reads the
bytes of a `std::string`: `compare(0, 6, "nvidia")` compares the first `min(6, size())` bytes
with the six of the literal and then the two lengths, so it is zero exactly when the name has
at least six bytes and begins with `nvidia`; the loop then calls `isdigit` on every byte after
the sixth.  `countDevEntryBytes` is that reading, for every byte string.

A character outside ASCII encodes to bytes of `0x80` and above, none of which is a digit or a
letter of `nvidia`, so the two readings agree on the bytes of every string
(`countDevEntry_eq_bytes`).  The names they accept are `nvidia` followed by zero or more digits
(`countDevEntryBytes_iff`): the loop is empty for the bare name `nvidia`.
-/

namespace DcgmDiag

open String (utf8EncodeChar)

/-- `isdigit` of `<ctype.h>` on a byte of a name: the digits `'0'` to `'9'`.  A byte of `0x80`
or above, a negative `char`, is a digit in no locale. -/
def isdigit (b : UInt8) : Bool := 48 ≤ b.toNat && b.toNat ≤ 57

/-- The bytes of a string as a `std::string` holds them: its UTF-8 encoding. -/
def utf8Bytes (s : String) : List UInt8 := s.toUTF8.data.toList

/-- `Software::CountDevEntry` on the bytes of the name. -/
def countDevEntryBytes (entryName : List UInt8) : Bool :=
  if entryName.take 6 = utf8Bytes "nvidia" then (entryName.drop 6).all isdigit else false

lemma utf8Bytes_eq (s : String) : utf8Bytes s = s.toList.flatMap utf8EncodeChar := rfl

/-! ## The UTF-8 encoding of one character -/

lemma utf8EncodeChar_ascii {c : Char} (h : c.toNat < 128) :
    utf8EncodeChar c = [UInt8.ofNat c.toNat] := by
  have : c.val ≤ 0x7f := by
    rw [UInt32.le_def, BitVec.le_def]
    exact Nat.le_of_lt_succ h
  simp only [utf8EncodeChar, if_pos this]
  rfl

lemma toNat_ofNat_ascii {c : Char} (h : c.toNat < 128) : (UInt8.ofNat c.toNat).toNat = c.toNat :=
  UInt8.toNat_ofNat_of_lt (by unfold UInt8.size; omega)

lemma ofNat_ascii_inj {c a : Char} (hc : c.toNat < 128) (ha : a.toNat < 128) :
    UInt8.ofNat c.toNat = UInt8.ofNat a.toNat ↔ c = a := by
  refine ⟨fun h => Char.ext (UInt32.toNat.inj ?_), fun h => h ▸ rfl⟩
  simpa only [toNat_ofNat_ascii hc, toNat_ofNat_ascii ha] using congrArg UInt8.toNat h

/-- A byte with its top bit set keeps it under `|||`. -/
lemma le_toNat_or (x k : UInt8) (hk : 128 ≤ k.toNat) : 128 ≤ (x ||| k).toNat := by
  have hbit : k.toNat.testBit 7 = true := by
    have : k.toNat < 256 := UInt8.toNat_lt_size k
    rw [Nat.testBit_to_div_mod]
    simp only [decide_eq_true_eq]
    omega
  show 2 ^ 7 ≤ (x.toBitVec ||| k.toBitVec).toNat
  rw [BitVec.toNat_or]
  exact Nat.testBit_implies_ge (by rw [Nat.testBit_or]; exact Bool.or_eq_true_iff.2 (.inr hbit))

/-- The first byte of a character outside ASCII is `0x80` or above. -/
lemma utf8EncodeChar_head_ge {c : Char} (h : 128 ≤ c.toNat) :
    ∃ b bs, utf8EncodeChar c = b :: bs ∧ 128 ≤ b.toNat := by
  have hc : ¬c.val ≤ 0x7f := by
    rw [UInt32.le_def, BitVec.le_def]
    exact Nat.not_le_of_lt h
  unfold utf8EncodeChar
  simp only [if_neg hc]
  split_ifs
  · exact ⟨_, _, rfl, le_toNat_or _ _ (by decide)⟩
  · exact ⟨_, _, rfl, le_toNat_or _ _ (by decide)⟩
  · exact ⟨_, _, rfl, le_toNat_or _ _ (by decide)⟩

lemma isDigit_eq (c : Char) : c.isDigit = (48 ≤ c.toNat && c.toNat ≤ 57) := by
  simp [Char.isDigit, UInt32.le_def, BitVec.le_def, Char.toNat, UInt32.toNat]

/-- The bytes of a character are all digits exactly when it is a digit. -/
lemma all_isdigit_utf8EncodeChar (c : Char) : (utf8EncodeChar c).all isdigit = c.isDigit := by
  rw [isDigit_eq]
  by_cases h : c.toNat < 128
  · rw [utf8EncodeChar_ascii h]
    simp [isdigit, toNat_ofNat_ascii h]
  · obtain ⟨b, bs, he, hb128⟩ := utf8EncodeChar_head_ge (Nat.le_of_not_lt h)
    have hb : isdigit b = false := by simp [isdigit]; omega
    have hc : (48 ≤ c.toNat && c.toNat ≤ 57) = false := by simp; omega
    rw [he, List.all_cons, hb, hc, Bool.false_and]

/-! ## Names -/

/-- An ASCII prefix is read off the bytes of a string as off its characters: a character
outside ASCII starts with a byte that no ASCII character encodes to. -/
lemma take_flatMap_utf8EncodeChar (p l : List Char) (hp : ∀ c ∈ p, c.toNat < 128) :
    (l.flatMap utf8EncodeChar).take p.length = p.flatMap utf8EncodeChar ↔
      l.take p.length = p := by
  induction p generalizing l with
  | nil => simp
  | cons a p ih =>
    have ha : a.toNat < 128 := hp a (List.mem_cons_self a p)
    have ih := fun l => ih l (fun c hc => hp c (List.mem_cons_of_mem a hc))
    cases l with
    | nil => simp [utf8EncodeChar_ascii ha]
    | cons c l =>
      rw [List.flatMap_cons, List.flatMap_cons, utf8EncodeChar_ascii ha]
      by_cases hc : c.toNat < 128
      · rw [utf8EncodeChar_ascii hc]
        simp only [List.length_cons, List.singleton_append, List.take_succ_cons, List.cons.injEq,
          ih l, ofNat_ascii_inj hc ha]
      · obtain ⟨b, bs, he, hb⟩ := utf8EncodeChar_head_ge (Nat.le_of_not_lt hc)
        rw [he]
        simp only [List.length_cons, List.cons_append, List.singleton_append, List.take_succ_cons,
          List.cons.injEq]
        constructor
        · rintro ⟨rfl, -⟩
          rw [toNat_ofNat_ascii ha] at hb
          omega
        · rintro ⟨rfl, -⟩
          omega

/-- `CountDevEntry` gives the same answer on the bytes of a name as `countDevEntry` on its
characters. -/
theorem countDevEntry_eq_bytes (entryName : String) :
    countDevEntry entryName = countDevEntryBytes (utf8Bytes entryName) := by
  have hlead := take_flatMap_utf8EncodeChar "nvidia".toList entryName.toList (by decide)
  rw [show "nvidia".toList.length = 6 from rfl] at hlead
  have h6 : ("nvidia".toList.flatMap utf8EncodeChar).length = 6 := rfl
  unfold countDevEntry countDevEntryBytes
  rw [utf8Bytes_eq, utf8Bytes_eq]
  by_cases h : entryName.toList.take 6 = "nvidia".toList
  · have hsplit : entryName.toList = "nvidia".toList ++ entryName.toList.drop 6 := by
      rw [← h, List.take_append_drop]
    rw [if_pos h, if_pos (hlead.2 h)]
    conv_rhs => rw [hsplit, List.flatMap_append, List.drop_left' h6]
    simp only [List.all_flatMap, all_isdigit_utf8EncodeChar]
  · rw [if_neg h, if_neg fun hb => h (hlead.1 hb)]

/-- The names `CountDevEntry` accepts, for every byte string: `nvidia` followed by zero or more
digits. -/
theorem countDevEntryBytes_iff (entryName : List UInt8) :
    countDevEntryBytes entryName = true ↔
      ∃ digits, entryName = utf8Bytes "nvidia" ++ digits ∧ digits.all isdigit = true := by
  have h6 : (utf8Bytes "nvidia").length = 6 := rfl
  unfold countDevEntryBytes
  constructor
  · intro h
    split_ifs at h with hp
    exact ⟨entryName.drop 6, by rw [← hp, List.take_append_drop], h⟩
  · rintro ⟨digits, rfl, hd⟩
    rw [if_pos (List.take_left' h6), List.drop_left' h6, hd]

/-- The bare name `nvidia` is accepted: on a host with one GPU whose `/dev` lists only a
readable `nvidia`, `checkPermissions` finds no missing device node. -/
theorem countDevEntry_bare_nvidia :
    let env : SoftwareEnv := { (default : SoftwareEnv) with
      getAllDevices := (.ok, [0]),
      listDir := fun path => if path = "/dev" then some ["nvidia"] else none }
    countDevEntryBytes (utf8Bytes "nvidia") = true ∧
      (checkPermissions env false false).2 = [.setResult .pass] := by
  decide

end DcgmDiag
