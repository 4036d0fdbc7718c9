import Mathlib.Tactic.FinCases
import RestaurantApi.Model

/-! uuid.New and UUID.String of github.com/google/uuid v1.1.1, against uuid.Parse.

Create and CreateMenu store the id `uuid.New().String()`; Retrieve, Delete and MenuRetrieve
check an id with `uuid.Parse` before they read. Every text String writes passes that check, holds
no `/` (so it is one path segment), and names its 16 bytes exactly. -/

namespace RestaurantApi

abbrev Uuid := Fin 16 → UInt8

/-- NewRandom (and New, which panics on its error): the 16 bytes read from the random source,
with the version 4 and RFC 4122 variant bits set. -/
def newRandom (random : Uuid) : Uuid := fun i =>
  if i = 6 then (random 6 &&& 0x0f) ||| 0x40
  else if i = 8 then (random 8 &&& 0x3f) ||| 0x80
  else random i

def hextable : List UInt8 := utf8 "0123456789abcdef"

/-- hex.Encode: each byte as the digits `hextable[v>>4]` and `hextable[v&0x0f]`, both indices
below 16. -/
def hexEncode (src : List UInt8) : List UInt8 :=
  src.flatMap fun v => [hextable.getD (v >>> 4).toNat 0, hextable.getD (v &&& 0x0f).toNat 0]

def encodeHex (uuid : Uuid) : List UInt8 :=
  hexEncode [uuid 0, uuid 1, uuid 2, uuid 3] ++ [45] ++ hexEncode [uuid 4, uuid 5] ++ [45] ++
    hexEncode [uuid 6, uuid 7] ++ [45] ++ hexEncode [uuid 8, uuid 9] ++ [45] ++
    hexEncode [uuid 10, uuid 11, uuid 12, uuid 13, uuid 14, uuid 15]

/-- UUID.String, `string(buf[:])` of the 36 bytes: they are ASCII, one character each. -/
def Uuid.string (uuid : Uuid) : String := ⟨(encodeHex uuid).map fun b => Char.ofNat b.toNat⟩

example : (newRandom fun i => i.val.toUInt8).string = "00010203-0405-4607-8809-0a0b0c0d0e0f" := by
  decide

theorem shiftRight_four_lt (v : UInt8) : (v >>> 4).toNat < 16 := by
  show (v.toBitVec >>> ((4 : UInt8) % 8).toBitVec).toNat < 16
  rw [BitVec.ushiftRight_eq', BitVec.toNat_ushiftRight, Nat.shiftRight_eq_div_pow]
  exact Nat.div_lt_of_lt_mul v.toBitVec.isLt

theorem and_fifteen_lt (v : UInt8) : (v &&& 0x0f).toNat < 16 := by
  rw [UInt8.and_toNat]
  exact Nat.and_lt_two_pow _ (by decide : (0x0f : UInt8).toNat < 2 ^ 4)

theorem toNat_eq_halves (v : UInt8) : v.toNat = 16 * (v >>> 4).toNat + (v &&& 0x0f).toNat := by
  show v.toNat = 16 * (v.toBitVec >>> ((4 : UInt8) % 8).toBitVec).toNat + (v &&& 0x0f).toNat
  rw [BitVec.ushiftRight_eq', BitVec.toNat_ushiftRight, Nat.shiftRight_eq_div_pow, UInt8.and_toNat,
    show (0x0f : UInt8).toNat = 2 ^ 4 - 1 from rfl, Nat.and_pow_two_sub_one_eq_mod]
  exact (Nat.div_add_mod _ _).symm

theorem hextable_length : hextable.length = 16 := by decide

theorem hextable_nodup : hextable.Nodup := by decide

theorem hextable_isHex : ∀ b ∈ hextable, isHexByte b = true := by decide

theorem ascii_of_mem_dash_hextable :
    ∀ b ∈ (45 : UInt8) :: hextable,
      String.utf8EncodeChar (Char.ofNat b.toNat) = [b] ∧ Char.ofNat b.toNat ≠ '/' := by
  decide

theorem getD_hextable {n : Nat} (small : n < 16) :
    hextable.getD n 0 = hextable.get ⟨n, hextable_length ▸ small⟩ := by
  rw [List.getD_eq_getElem?_getD, List.getElem?_eq_getElem]
  rfl

theorem getD_hextable_mem {n : Nat} (small : n < 16) : hextable.getD n 0 ∈ hextable := by
  rw [getD_hextable small]
  exact List.get_mem _ _ _

theorem getD_hextable_inj {i j : Nat} (hi : i < 16) (hj : j < 16)
    (same : hextable.getD i 0 = hextable.getD j 0) : i = j := by
  rw [getD_hextable hi, getD_hextable hj] at same
  exact Fin.mk.inj_iff.mp (hextable_nodup.get_inj_iff.mp same)

theorem eq_of_digits_eq {v w : UInt8}
    (high : hextable.getD (v >>> 4).toNat 0 = hextable.getD (w >>> 4).toNat 0)
    (low : hextable.getD (v &&& 0x0f).toNat 0 = hextable.getD (w &&& 0x0f).toNat 0) : v = w := by
  have high := getD_hextable_inj (shiftRight_four_lt v) (shiftRight_four_lt w) high
  have low := getD_hextable_inj (and_fifteen_lt v) (and_fifteen_lt w) low
  exact UInt8.toNat.inj (by rw [toNat_eq_halves v, toNat_eq_halves w, high, low])

@[simp] theorem isHexByte_high (v : UInt8) : isHexByte (hextable.getD (v >>> 4).toNat 0) = true :=
  hextable_isHex _ (getD_hextable_mem (shiftRight_four_lt v))

@[simp] theorem isHexByte_low (v : UInt8) : isHexByte (hextable.getD (v &&& 0x0f).toNat 0) = true :=
  hextable_isHex _ (getD_hextable_mem (and_fifteen_lt v))

theorem hexEncode_nil : hexEncode [] = [] := rfl

theorem hexEncode_cons (v : UInt8) (vs : List UInt8) :
    hexEncode (v :: vs) =
      hextable.getD (v >>> 4).toNat 0 :: hextable.getD (v &&& 0x0f).toNat 0 :: hexEncode vs := rfl

theorem mem_hexEncode {src : List UInt8} {b : UInt8} (member : b ∈ hexEncode src) : b ∈ hextable := by
  simp only [hexEncode, List.mem_flatMap, List.mem_cons, List.mem_singleton, List.not_mem_nil,
    or_false] at member
  obtain ⟨v, -, rfl | rfl⟩ := member
  exacts [getD_hextable_mem (shiftRight_four_lt v), getD_hextable_mem (and_fifteen_lt v)]

section Text

variable (uuid : Uuid)

theorem encodeHex_subset : encodeHex uuid ⊆ (45 : UInt8) :: hextable := by
  have digits : ∀ src, hexEncode src ⊆ (45 : UInt8) :: hextable :=
    fun _ _ member => .tail _ (mem_hexEncode member)
  simp only [encodeHex, List.append_subset, List.cons_subset, List.nil_subset, List.mem_cons_self, digits,
    and_self]

theorem length_encodeHex : (encodeHex uuid).length = 36 := by
  simp only [encodeHex, hexEncode_cons, hexEncode_nil, List.length_append, List.length_cons,
    List.length_singleton, List.length_nil]

theorem utf8_ascii {bytes : List UInt8} (ascii : bytes ⊆ (45 : UInt8) :: hextable) :
    utf8 ⟨bytes.map fun b => Char.ofNat b.toNat⟩ = bytes := by
  induction bytes with
  | nil => rfl
  | cons b bs ih =>
    rw [List.cons_subset] at ascii
    show String.utf8EncodeChar (Char.ofNat b.toNat) ++ utf8 ⟨bs.map _⟩ = b :: bs
    rw [(ascii_of_mem_dash_hextable b ascii.1).1, ih ascii.2]
    rfl

theorem utf8_string : utf8 uuid.string = encodeHex uuid := utf8_ascii (encodeHex_subset uuid)

theorem dashed_encodeHex : dashed (encodeHex uuid) = true := by
  simp only [dashed, encodeHex, hexEncode_cons, hexEncode_nil, List.append_assoc, List.cons_append,
    List.singleton_append, List.nil_append, List.all_cons, List.all_nil, xtob, List.get?_cons_succ,
    List.get?_cons_zero, isHexByte_high, isHexByte_low]
  rfl

theorem uuidParse_string : uuidParse uuid.string = true := by
  simp only [uuidParse, utf8_string, length_encodeHex, dashed_encodeHex]

theorem slash_not_mem_string : '/' ∉ uuid.string.data := by
  simp only [Uuid.string, List.mem_map, not_exists, not_and]
  intro b member slash
  exact (ascii_of_mem_dash_hextable b (encodeHex_subset uuid member)).2 slash

end Text

theorem encodeHex_injective : Function.Injective encodeHex := by
  intro u w same
  simp only [encodeHex, hexEncode_cons, hexEncode_nil, List.append_assoc, List.cons_append,
    List.singleton_append, List.nil_append] at same
  simp only [List.cons.injEq, true_and, and_true] at same
  obtain ⟨h0, l0, h1, l1, h2, l2, h3, l3, h4, l4, h5, l5, h6, l6, h7, l7, h8, l8, h9, l9,
    h10, l10, h11, l11, h12, l12, h13, l13, h14, l14, h15, l15⟩ := same
  funext i
  fin_cases i
  exacts [eq_of_digits_eq h0 l0, eq_of_digits_eq h1 l1, eq_of_digits_eq h2 l2,
    eq_of_digits_eq h3 l3, eq_of_digits_eq h4 l4, eq_of_digits_eq h5 l5, eq_of_digits_eq h6 l6,
    eq_of_digits_eq h7 l7, eq_of_digits_eq h8 l8, eq_of_digits_eq h9 l9, eq_of_digits_eq h10 l10,
    eq_of_digits_eq h11 l11, eq_of_digits_eq h12 l12, eq_of_digits_eq h13 l13,
    eq_of_digits_eq h14 l14, eq_of_digits_eq h15 l15]

theorem string_injective : Function.Injective Uuid.string := fun u w same =>
  encodeHex_injective (by rw [← utf8_string u, ← utf8_string w, same])

theorem uuid_string_parses_and_injective :
    (∀ uuid : Uuid, uuidParse uuid.string = true ∧ '/' ∉ uuid.string.data) ∧
      Function.Injective Uuid.string :=
  ⟨fun uuid => ⟨uuidParse_string uuid, slash_not_mem_string uuid⟩, string_injective⟩

end RestaurantApi
