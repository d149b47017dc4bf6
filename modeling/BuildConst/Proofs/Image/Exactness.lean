import Mathlib.Algebra.Group.Nat.Defs
import Mathlib.Data.List.Basic
import BuildConst.Artifact.Image.Wire
import BuildConst.Proofs.Text.Utf8

/-!
# The bytes of images are read exactly as they are written

Each reader of the layout takes from the front of a list of bytes what the writer of the same kind
puts there, and nothing else: it succeeds on the written form of a value, whatever follows, and it
accepts no other spelling of that value.  The only values without a written form are those with a
text or a list that is too long for its length to be put in eight bytes.

## Main definitions

* `Wire.Exact` — a reader takes exactly what a writer produces.
* `Image.Fits` — every text and every list of an image is short enough to be written.

## Main results

* `Wire.exact_readImage` — the reader of images is exact.
* `Wire.Exact.append` — what follows a value that is read does not matter.
-/

set_option relaxedAutoImplicit false
set_option autoImplicit false

namespace BuildConst

/-! ## Lengths that can be written -/

namespace Wire

/-- The number of bytes of a text can be written in eight bytes. -/
def TextFits (s : String) : Prop :=
  s.utf8ByteSize < 2 ^ 64

/-- The number of items of a list can be written in eight bytes, and each item can be written. -/
def ListFits {α : Type} (Fits : α → Prop) (items : List α) : Prop :=
  items.length < 2 ^ 64 ∧ ∀ item ∈ items, Fits item

instance (s : String) : Decidable (TextFits s) :=
  inferInstanceAs (Decidable (_ < _))

instance {α : Type} (Fits : α → Prop) [DecidablePred Fits] (items : List α) :
    Decidable (ListFits Fits items) :=
  inferInstanceAs (Decidable (_ ∧ _))

end Wire

/-- The texts and lists of a value can be written. -/
def Value.Fits : Value → Prop
  | .string text => Wire.TextFits text
  | .bool _ => True
  | .int _ => True
  | .stringArray items => Wire.ListFits Wire.TextFits items

instance : (v : Value) → Decidable v.Fits
  | .string _ => inferInstanceAs (Decidable (Wire.TextFits _))
  | .bool _ => inferInstanceAs (Decidable True)
  | .int _ => inferInstanceAs (Decidable True)
  | .stringArray _ => inferInstanceAs (Decidable (Wire.ListFits _ _))

/-- The name and the value of a constant can be written. -/
def Constant.Fits (c : Constant) : Prop :=
  Wire.TextFits c.name ∧ c.value.Fits

instance (c : Constant) : Decidable c.Fits :=
  inferInstanceAs (Decidable (_ ∧ _))

/-- The path of a container can be written. -/
def Container.Fits (c : Container) : Prop :=
  Wire.ListFits Wire.TextFits c.segments ∧ Wire.TextFits c.name

instance (c : Container) : Decidable c.Fits :=
  inferInstanceAs (Decidable (_ ∧ _))

/-- The container and the accessors of a type can be written. -/
def Image.TypeDef.Fits (t : Image.TypeDef) : Prop :=
  t.container.Fits ∧ Wire.ListFits Constant.Fits t.accessors

instance (t : Image.TypeDef) : Decidable t.Fits :=
  inferInstanceAs (Decidable (_ ∧ _))

/-- Every text and every list of an image can be written. -/
def Image.Fits (image : Image) : Prop :=
  Wire.TextFits image.header.generator ∧ Wire.TextFits image.name ∧
    Wire.ListFits Image.TypeDef.Fits image.types

instance (image : Image) : Decidable image.Fits :=
  inferInstanceAs (Decidable (_ ∧ _ ∧ _))

namespace Wire

/-! ## Exact readers -/

/-- A reader takes exactly what a writer produces: it succeeds if the bytes begin with the written
form of a value that can be written, and only then. -/
def Exact {α : Type} (read : Reader α) (write : α → List UInt8) (Fits : α → Prop) : Prop :=
  ∀ bytes a rest, read bytes = .ok (a, rest) ↔ Fits a ∧ bytes = write a ++ rest

/-- What was written is read back, whatever follows it. -/
theorem Exact.read_append {α : Type} {read : Reader α} {write : α → List UInt8} {Fits : α → Prop}
    (h : Exact read write Fits) {a : α} (hfits : Fits a) (rest : List UInt8) :
    read (write a ++ rest) = .ok (a, rest) :=
  (h _ _ _).2 ⟨hfits, rfl⟩

/-- What follows a value that is read does not matter. -/
theorem Exact.append {α : Type} {read : Reader α} {write : α → List UInt8} {Fits : α → Prop}
    (h : Exact read write Fits) {bytes rest : List UInt8} {a : α}
    (hread : read bytes = .ok (a, rest)) (more : List UInt8) :
    read (bytes ++ more) = .ok (a, rest ++ more) := by
  obtain ⟨hfits, rfl⟩ := (h _ _ _).1 hread
  rw [List.append_assoc]
  exact h.read_append hfits _

/-- A number that fits its width is read back, whatever follows it. -/
theorem readNat_encodeNat_append {width n : Nat} (h : n < 256 ^ width) (rest : List UInt8) :
    readNat width (encodeNat width n ++ rest) = .ok (n, rest) := by
  induction width generalizing n with
  | zero => simp_all [readNat, encodeNat]
  | succ width ih =>
    have hhigh : n / 256 < 256 ^ width := by
      rw [Nat.pow_succ] at h
      exact Nat.div_lt_of_lt_mul (by omega)
    have hlow : n % 256 < 2 ^ 8 := Nat.mod_lt _ (by decide)
    simp only [encodeNat, List.cons_append, readNat, ih hhigh, bind, Except.bind]
    rw [UInt8.toNat_ofNat_of_lt' hlow]
    simp only [Except.ok.injEq, Prod.mk.injEq, and_true]
    omega

/-- Numbers are read exactly. -/
theorem exact_readNat (width : Nat) :
    Exact (readNat width) (encodeNat width) fun n => n < 256 ^ width := by
  intro bytes n rest
  refine ⟨fun h => ?_, fun ⟨hn, hbytes⟩ => hbytes ▸ readNat_encodeNat_append hn rest⟩
  induction width generalizing bytes n with
  | zero =>
    simp only [readNat, Except.ok.injEq, Prod.mk.injEq] at h
    obtain ⟨rfl, rfl⟩ := h
    simp [encodeNat]
  | succ width ih =>
    cases bytes with
    | nil => simp [readNat] at h
    | cons b bytes =>
      simp only [readNat, Except.bind_eq_ok_iff, Prod.exists, Except.ok.injEq,
        Prod.mk.injEq] at h
      obtain ⟨high, rest', hhigh, rfl, rfl⟩ := h
      obtain ⟨hlt, rfl⟩ := ih _ _ hhigh
      have hb := b.toNat_lt
      have hmod : (b.toNat + 256 * high) % 256 = b.toNat := by omega
      have hdiv : (b.toNat + 256 * high) / 256 = high := by omega
      have hpow : 256 ^ (width + 1) = 256 ^ width * 256 := Nat.pow_succ 256 width
      refine ⟨by dsimp only at hlt ⊢; omega, ?_⟩
      rw [encodeNat, hmod, hdiv, UInt8.ofNat_toNat, List.cons_append]

/-- Bytes that are read as they are stand in front. -/
theorem exact_readBytes (count : Nat) :
    Exact (readBytes count) Vector.toList fun _ => True := by
  intro bytes v rest
  unfold readBytes
  constructor
  · intro h
    split at h
    · simp only [Except.ok.injEq, Prod.mk.injEq] at h
      obtain ⟨rfl, rfl⟩ := h
      simp [Vector.toList]
    · cases h
  · rintro ⟨-, rfl⟩
    have hlen : v.toList.length = count := v.length_toList
    rw [dif_pos (by rw [List.length_append]; omega)]
    congr 2
    · apply Vector.toList_inj.1
      rw [Vector.toList_mk, List.take_left' hlen]
    · exact List.drop_left' hlen

/-- Texts are read exactly. -/
theorem exact_readText : Exact readText encodeText TextFits := by
  intro bytes s rest
  simp only [readText, Except.bind_eq_ok_iff, Prod.exists, exact_readNat _ _ _ _]
  constructor
  · rintro ⟨length, rest', ⟨hlt, rfl⟩, h⟩
    split at h
    · cases h
    next hlen =>
      split at h
      · next text hdecode =>
        simp only [Except.ok.injEq, Prod.mk.injEq] at h
        obtain ⟨rfl, rfl⟩ := h
        have htake := Text.Utf8.decode_eq_ok_iff.1 hdecode
        have hsize : (Text.Utf8.encode text).length = length := by
          rw [← htake, List.length_take]
          omega
        refine ⟨?_, ?_⟩
        · rw [TextFits, ← Text.Utf8.length_encode, hsize]
          exact hlt
        · rw [encodeText, ← htake, encodeLength, htake, hsize, ← htake, List.append_assoc,
            List.take_append_drop]
      · cases h
  · rintro ⟨hfits, rfl⟩
    rw [TextFits, ← Text.Utf8.length_encode] at hfits
    refine ⟨_, _, ⟨hfits, by rw [encodeText, encodeLength, List.append_assoc]⟩, ?_⟩
    rw [if_neg (by rw [List.length_append]; omega), List.take_left, List.drop_left,
      Text.Utf8.decode_eq_ok_iff.2 rfl]

/-- A given number of items is read exactly if the items are. -/
theorem readItems_eq_ok_iff {α : Type} {item : Reader α} {write : α → List UInt8}
    {Fits : α → Prop} (h : Exact item write Fits) {count : Nat} {bytes rest : List UInt8}
    {items : List α} :
    readItems item count bytes = .ok (items, rest) ↔
      items.length = count ∧ (∀ a ∈ items, Fits a) ∧ bytes = items.flatMap write ++ rest := by
  induction count generalizing bytes items rest with
  | zero =>
    simp only [readItems, Except.ok.injEq, Prod.mk.injEq]
    constructor
    · rintro ⟨rfl, rfl⟩
      simp
    · rintro ⟨hlen, -, rfl⟩
      obtain rfl := List.length_eq_zero_iff.1 hlen
      simp
  | succ count ih =>
    simp only [readItems, Except.bind_eq_ok_iff, Prod.exists, h _ _ _, ih, Except.ok.injEq,
      Prod.mk.injEq]
    constructor
    · rintro ⟨first, _, ⟨hfirst, rfl⟩, others, _, ⟨rfl, hothers, rfl⟩, rfl, rfl⟩
      refine ⟨rfl, List.forall_mem_cons.2 ⟨hfirst, hothers⟩, ?_⟩
      rw [List.flatMap_cons, List.append_assoc]
    · rintro ⟨hlen, hfits, rfl⟩
      cases items with
      | nil => simp at hlen
      | cons first others =>
        obtain ⟨hfirst, hothers⟩ := List.forall_mem_cons.1 hfits
        refine ⟨first, _, ⟨hfirst, ?_⟩, others, rest, ⟨by simpa using hlen, hothers, rfl⟩, rfl,
          rfl⟩
        rw [List.flatMap_cons, List.append_assoc]

/-- Lists are read exactly if their items are. -/
theorem Exact.list {α : Type} {item : Reader α} {write : α → List UInt8} {Fits : α → Prop}
    (h : Exact item write Fits) : Exact (readList item) (encodeList write) (ListFits Fits) := by
  intro bytes items rest
  simp only [readList, Except.bind_eq_ok_iff, Prod.exists, exact_readNat _ _ _ _,
    readItems_eq_ok_iff h]
  constructor
  · rintro ⟨_, _, ⟨hlt, rfl⟩, rfl, hfits, rfl⟩
    exact ⟨⟨hlt, hfits⟩, (List.append_assoc _ _ _).symm⟩
  · rintro ⟨⟨hlt, hfits⟩, rfl⟩
    exact ⟨_, _, ⟨hlt, List.append_assoc _ _ _⟩, rfl, hfits, rfl⟩

/-- Truth values are read exactly: no byte but zero and one is accepted. -/
theorem exact_readBool :
    Exact readBool (fun truth => [if truth then 1 else 0]) fun _ => True := by
  intro bytes truth rest
  cases bytes with
  | nil => simp [readBool]
  | cons b bytes =>
    rw [readBool]
    by_cases h0 : b = 0
    · subst h0
      cases truth <;> simp
    by_cases h1 : b = 1
    · subst h1
      cases truth <;> simp
    · cases truth <;> simp [h0, h1]

/-- Integers are read exactly: their bytes are those of their two's complement. -/
theorem exact_readInt :
    Exact readInt (fun number => encodeNat 4 number.toUInt32.toNat) fun _ => True := by
  intro bytes number rest
  simp only [readInt, Except.bind_eq_ok_iff, Prod.exists, exact_readNat _ _ _ _,
    Except.ok.injEq, Prod.mk.injEq, true_and]
  constructor
  · rintro ⟨n, _, ⟨hlt, rfl⟩, rfl, rfl⟩
    have hn : (UInt32.ofNat n).toNat = n := UInt32.toNat_ofNat_of_lt' hlt
    rw [UInt32.toUInt32_toInt32, hn]
  · rintro rfl
    exact ⟨_, _, ⟨number.toUInt32.toNat_lt, rfl⟩, by simp, rfl⟩

/-- The number of a kind has four bytes. -/
theorem kindTag_lt (k : Kind) : kindTag k < 256 ^ 4 := by
  cases k <;> decide

/-- Values are read exactly: no number of a kind but the four is accepted.

**Proof sketch.** The number of the kind is read first, and it decides what is read next.  For each
of the four numbers this is what the writer puts behind it, and a fifth number is a fault. -/
theorem exact_readValue : Exact readValue encodeValue Value.Fits := by
  intro bytes v rest
  simp only [readValue, Except.bind_eq_ok_iff, Prod.exists, exact_readNat _ _ _ _]
  constructor
  · rintro ⟨tag, _, ⟨-, rfl⟩, h⟩
    split at h
    · simp only [Except.bind_eq_ok_iff, Prod.exists, exact_readText _ _ _, Except.ok.injEq,
        Prod.mk.injEq] at h
      obtain ⟨text, _, ⟨hfits, rfl⟩, rfl, rfl⟩ := h
      exact ⟨hfits, (List.append_assoc _ _ _).symm⟩
    · simp only [Except.bind_eq_ok_iff, Prod.exists, exact_readBool _ _ _, Except.ok.injEq,
        Prod.mk.injEq] at h
      obtain ⟨truth, _, ⟨-, rfl⟩, rfl, rfl⟩ := h
      exact ⟨trivial, (List.append_assoc _ _ _).symm⟩
    · simp only [Except.bind_eq_ok_iff, Prod.exists, exact_readInt _ _ _, Except.ok.injEq,
        Prod.mk.injEq] at h
      obtain ⟨number, _, ⟨-, rfl⟩, rfl, rfl⟩ := h
      exact ⟨trivial, (List.append_assoc _ _ _).symm⟩
    · simp only [Except.bind_eq_ok_iff, Prod.exists, exact_readText.list _ _ _, Except.ok.injEq,
        Prod.mk.injEq] at h
      obtain ⟨items, _, ⟨hfits, rfl⟩, rfl, rfl⟩ := h
      exact ⟨hfits, (List.append_assoc _ _ _).symm⟩
    · cases h
  · rintro ⟨hfits, rfl⟩
    refine ⟨kindTag v.kind, encodeContent v ++ rest, ⟨kindTag_lt _, List.append_assoc _ _ _⟩, ?_⟩
    cases v with
    | string text =>
      exact Except.bind_eq_ok_iff.2 ⟨_, exact_readText.read_append hfits rest, rfl⟩
    | bool truth =>
      exact Except.bind_eq_ok_iff.2 ⟨_, exact_readBool.read_append trivial rest, rfl⟩
    | int number =>
      exact Except.bind_eq_ok_iff.2 ⟨_, exact_readInt.read_append trivial rest, rfl⟩
    | stringArray items =>
      exact Except.bind_eq_ok_iff.2 ⟨_, exact_readText.list.read_append hfits rest, rfl⟩

/-- Accessors are read exactly. -/
theorem exact_readAccessor : Exact readAccessor encodeAccessor Constant.Fits := by
  intro bytes a rest
  simp only [readAccessor, Except.bind_eq_ok_iff, Prod.exists, exact_readText _ _ _,
    exact_readValue _ _ _, Except.ok.injEq, Prod.mk.injEq]
  constructor
  · rintro ⟨name, _, ⟨hname, rfl⟩, value, _, ⟨hvalue, rfl⟩, rfl, rfl⟩
    exact ⟨⟨hname, hvalue⟩, by simp only [encodeAccessor, List.append_assoc]⟩
  · rintro ⟨⟨hname, hvalue⟩, rfl⟩
    exact ⟨_, _, ⟨hname, List.append_assoc _ _ _⟩, _, _, ⟨hvalue, rfl⟩, rfl, rfl⟩

/-- Types are read exactly. -/
theorem exact_readType : Exact readType encodeType Image.TypeDef.Fits := by
  intro bytes t rest
  simp only [readType, Except.bind_eq_ok_iff, Prod.exists, exact_readText _ _ _,
    exact_readText.list _ _ _, exact_readAccessor.list _ _ _, Except.ok.injEq, Prod.mk.injEq]
  constructor
  · rintro ⟨segments, _, ⟨hsegments, rfl⟩, name, _, ⟨hname, rfl⟩, accessors, _,
      ⟨haccessors, rfl⟩, rfl, rfl⟩
    exact ⟨⟨⟨hsegments, hname⟩, haccessors⟩, by simp only [encodeType, List.append_assoc]⟩
  · rintro ⟨⟨⟨hsegments, hname⟩, haccessors⟩, rfl⟩
    exact ⟨_, _, ⟨hsegments, by simp only [encodeType, List.append_assoc]⟩, _, _, ⟨hname, rfl⟩,
      _, _, ⟨haccessors, rfl⟩, rfl, rfl⟩

/-- Headers are read exactly, whatever marking bytes and version they hold. -/
theorem exact_readHeader :
    Exact readHeader encodeHeader fun header => TextFits header.generator := by
  intro bytes header rest
  simp only [readHeader, Except.bind_eq_ok_iff, Prod.exists, exact_readBytes _ _ _ _,
    exact_readNat _ _ _ _, exact_readText _ _ _, Except.ok.injEq, Prod.mk.injEq, true_and]
  constructor
  · rintro ⟨magic, _, rfl, version, _, ⟨hversion, rfl⟩, generator, _, ⟨hgenerator, rfl⟩, rfl, rfl⟩
    have hv : (UInt16.ofNat version).toNat = version := UInt16.toNat_ofNat_of_lt' hversion
    exact ⟨hgenerator, by simp only [encodeHeader, List.append_assoc, hv]⟩
  · rintro ⟨hgenerator, rfl⟩
    exact ⟨header.magic, _, by simp only [encodeHeader, List.append_assoc], _, _,
      ⟨header.version.toNat_lt, rfl⟩, _, _, ⟨hgenerator, rfl⟩, by rw [UInt16.ofNat_toNat], rfl⟩

/-- **Images are read exactly as they are written**: bytes begin with an image exactly if they begin
with its written form, and all of its texts and lists are short enough to have one. -/
theorem exact_readImage : Exact readImage encodeImage Image.Fits := by
  intro bytes image rest
  simp only [readImage, Except.bind_eq_ok_iff, Prod.exists, exact_readHeader _ _ _,
    exact_readText _ _ _, exact_readType.list _ _ _, Except.ok.injEq, Prod.mk.injEq]
  constructor
  · rintro ⟨header, _, ⟨hheader, rfl⟩, name, _, ⟨hname, rfl⟩, types, _, ⟨htypes, rfl⟩, rfl, rfl⟩
    exact ⟨⟨hheader, hname, htypes⟩, by simp only [encodeImage, List.append_assoc]⟩
  · rintro ⟨⟨hheader, hname, htypes⟩, rfl⟩
    exact ⟨_, _, ⟨hheader, by simp only [encodeImage, List.append_assoc]⟩, _, _, ⟨hname, rfl⟩,
      _, _, ⟨htypes, rfl⟩, rfl, rfl⟩

end Wire

end BuildConst
