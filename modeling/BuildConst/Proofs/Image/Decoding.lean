import BuildConst.Artifact
import BuildConst.Proofs.Image.Exactness

/-!
# Decoding module images

An image is accepted exactly if it carries the marking bytes and the version of the layout and the
bytes begin with its written form.  So the image of a table comes back whatever follows it, and no
image that was cut short is taken for another one.

## Main definitions

* `Image.IsCurrent` — an image carries the marking bytes and the version of the layout.

## Main results

* `Image.decode_eq_ok_iff` — the bytes that are accepted.
* `Image.decode_render_append` — the image of a table is read back, and gives the constants of the
  table.
* `Image.decode_canonical` — no byte of an accepted image can be missing or differ.
* `Image.decode_by_header` — the marking bytes decide first, then the version, then the rest.
-/

set_option relaxedAutoImplicit false
set_option autoImplicit false

namespace BuildConst.Image

/-- An image carries the marking bytes and the version of the layout. -/
def IsCurrent (image : Image) : Prop :=
  image.header.magic = magic ∧ image.header.version = formatVersion

/-- The images that this program writes are current. -/
theorem isCurrent_ofTable (t : Table) (c : Container) (moduleName : String) :
    (ofTable t c moduleName).IsCurrent :=
  ⟨rfl, rfl⟩

/-- The marking bytes that an image begins with. -/
theorem readBytes_encodeImage_append (image : Image) (rest : List UInt8) :
    ∃ rest', Wire.readBytes 8 (Wire.encodeImage image ++ rest) =
      .ok (image.header.magic, rest') := by
  simp only [Wire.encodeImage, Wire.encodeHeader, List.append_assoc]
  exact ⟨_, (Wire.exact_readBytes 8).read_append trivial _⟩

/-- The header that an image begins with. -/
theorem readHeader_encodeImage_append {image : Image} (h : Wire.TextFits image.header.generator)
    (rest : List UInt8) :
    ∃ rest', Wire.readHeader (Wire.encodeImage image ++ rest) = .ok (image.header, rest') := by
  simp only [Wire.encodeImage, List.append_assoc]
  exact ⟨_, Wire.exact_readHeader.read_append h _⟩

/-- **The bytes that are accepted** are the written forms of current images, each followed by
anything.

**Proof sketch.** All three readings of the bytes begin at their front.  If the bytes begin with a
written image, the first two find its marking bytes and its header.  Conversely the last one finds
an image whose written form the bytes begin with, and its header is the one that was checked. -/
theorem decode_eq_ok_iff {bytes : List UInt8} {image : Image} :
    decode bytes = .ok image ↔ image.IsCurrent ∧ image.Fits ∧ Wire.encodeImage image <+: bytes := by
  constructor
  · intro h
    unfold decode at h
    split at h
    · cases h
    next found _ hmagic =>
      split at h
      · cases h
      next hfound =>
        split at h
        · cases h
        next header _ hheader =>
          split at h
          · cases h
          next hversion =>
            split at h
            · cases h
            next read rest hread =>
              obtain rfl := Except.ok.inj h
              obtain ⟨hfits, rfl⟩ := (Wire.exact_readImage _ _ _).1 hread
              obtain ⟨_, hmagic'⟩ := readBytes_encodeImage_append read rest
              obtain ⟨_, hheader'⟩ := readHeader_encodeImage_append hfits.1 rest
              rw [hmagic'] at hmagic
              rw [hheader'] at hheader
              cases hmagic
              cases hheader
              exact ⟨⟨Classical.not_not.1 hfound, Classical.not_not.1 hversion⟩, hfits,
                List.prefix_append _ _⟩
  · rintro ⟨⟨hmagic, hversion⟩, hfits, rest, rfl⟩
    obtain ⟨_, hreadMagic⟩ := readBytes_encodeImage_append image rest
    obtain ⟨_, hreadHeader⟩ := readHeader_encodeImage_append hfits.1 rest
    have hread := Wire.exact_readImage.read_append hfits rest
    simp only [decode, hreadMagic, hmagic, hreadHeader, hversion, hread, ne_eq, not_true_eq_false,
      if_false]

/-- An image that was cut short is malformed.

**Proof sketch.** Whatever of the image is still there is read as in the whole image: the marking
bytes if all of them are there, and then the header if all of it is.  So neither can be the wrong
one.  If an image could be read, it would be read from the whole as well with the missing bytes
behind it, but behind the whole image there is nothing. -/
theorem decode_of_cut {image : Image} (hcurrent : image.IsCurrent) (hfits : image.Fits)
    {bytes missing : List UInt8} (hmissing : missing ≠ [])
    (hcut : bytes ++ missing = Wire.encodeImage image) :
    ∃ fault, decode bytes = .error (.malformed fault) := by
  have hwhole : Wire.encodeImage image ++ [] = bytes ++ missing := by rw [hcut, List.append_nil]
  obtain ⟨_, hmagic⟩ := readBytes_encodeImage_append image []
  obtain ⟨_, hheader⟩ := readHeader_encodeImage_append hfits.1 []
  have himage := Wire.exact_readImage.read_append hfits []
  rw [hwhole] at hmagic hheader himage
  unfold decode
  split
  · exact ⟨_, rfl⟩
  next found _ hfound =>
    rw [(Wire.exact_readBytes 8).append hfound missing] at hmagic
    obtain rfl := (Prod.mk.inj (Except.ok.inj hmagic)).1
    rw [if_neg (not_not_intro hcurrent.1)]
    split
    · exact ⟨_, rfl⟩
    next header _ hread =>
      rw [Wire.exact_readHeader.append hread missing] at hheader
      obtain rfl := (Prod.mk.inj (Except.ok.inj hheader)).1
      rw [if_neg (not_not_intro hcurrent.2)]
      split
      · exact ⟨_, rfl⟩
      next read rest hread' =>
        rw [Wire.exact_readImage.append hread' missing] at himage
        have hrest := (Prod.mk.inj (Except.ok.inj himage)).2
        exact absurd (List.append_eq_nil_iff.1 hrest).2 hmissing

/-! ## Bytes that are refused by their header -/

/-- Too few bytes for the marking bytes are malformed. -/
theorem decode_of_length_lt {bytes : List UInt8} (h : bytes.length < 8) :
    ∃ fault, decode bytes = .error (.malformed fault) := by
  have hnone : ¬8 ≤ bytes.length := by omega
  have hread : Wire.readBytes 8 bytes = .error .endOfInput := by
    simp [Wire.readBytes, hnone]
  exact ⟨.endOfInput, by simp [decode, hread]⟩

/-- Other marking bytes are refused, whatever follows them. -/
theorem decode_of_ne_magic {found : Vector UInt8 8} (h : found ≠ magic) (rest : List UInt8) :
    decode (found.toList ++ rest) = .error .badMagic := by
  have hread := (Wire.exact_readBytes 8).read_append (a := found) trivial rest
  simp [decode, hread, h]

/-- Bytes that do not begin with the marking bytes begin with others. -/
theorem decode_of_foreign {bytes : List UInt8} (hlength : 8 ≤ bytes.length)
    (h : ¬magic.toList <+: bytes) : decode bytes = .error .badMagic := by
  have hread : Wire.readBytes 8 bytes = .ok (⟨(bytes.take 8).toArray, by simp [hlength]⟩,
      bytes.drop 8) := by
    simp [Wire.readBytes, hlength]
  obtain ⟨-, hbytes⟩ := (Wire.exact_readBytes 8 _ _ _).1 hread
  rw [hbytes]
  apply decode_of_ne_magic
  intro hmagic
  rw [hbytes, hmagic] at h
  exact h (List.prefix_append _ _)

/-- A header with the marking bytes is looked at before anything behind it. -/
theorem decode_encodeHeader_append {header : Header} (hmagic : header.magic = magic)
    (hfits : Wire.TextFits header.generator) (rest : List UInt8) :
    decode (Wire.encodeHeader header ++ rest) =
      if header.version ≠ formatVersion then .error (.unsupportedVersion header.version)
      else
        match Wire.readImage (Wire.encodeHeader header ++ rest) with
        | .error fault => .error (.malformed fault)
        | .ok (image, _) => .ok image := by
  have hbytes :
      ∃ left, Wire.readBytes 8 (Wire.encodeHeader header ++ rest) = .ok (magic, left) := by
    simp only [Wire.encodeHeader, List.append_assoc, hmagic]
    exact ⟨_, (Wire.exact_readBytes 8).read_append trivial _⟩
  obtain ⟨_, hfound⟩ := hbytes
  have hheader := Wire.exact_readHeader.read_append hfits rest
  simp only [decode, hfound, hheader]
  exact if_neg (not_not_intro rfl)

/-- An image that is read begins with the header that the bytes begin with. -/
theorem header_of_decode {header : Header} {image : Image} {rest : List UInt8}
    (hfits : Wire.TextFits header.generator)
    (h : decode (Wire.encodeHeader header ++ rest) = .ok image) : image.header = header := by
  obtain ⟨-, himage, tail, htail⟩ := decode_eq_ok_iff.1 h
  obtain ⟨_, hread⟩ := readHeader_encodeImage_append himage.1 tail
  rw [htail, Wire.exact_readHeader.read_append hfits rest] at hread
  cases hread
  rfl

/-! ## Main results -/

/-- **Images are read back**: whatever follows the written image of a table, reading gives the image
of the table.  It has one type under the path of the container, whose accessors are the constants
in table order, and the value of a name there is the value of that name in the table. -/
theorem decode_render_append (t : Table) (c : Container) (moduleName : String)
    (h : (ofTable t c moduleName).Fits) (trailing : List UInt8) :
    ∃ bytes type,
      Artifact.render .image t c moduleName = .ok bytes ∧
      decode (bytes ++ trailing) = .ok (ofTable t c moduleName) ∧
      (ofTable t c moduleName).find? c.fullName = some type ∧
      type.accessors = t.constants ∧
      (∀ name, type.value? name = (t.find? name).map Constant.value) ∧
      ∀ name, type.value? name = none ↔ t.contains name = false := by
  refine ⟨_, ⟨c, t.constants⟩, rfl, ?_, ?_, rfl, fun name => rfl, fun name => ?_⟩
  · exact decode_eq_ok_iff.2 ⟨isCurrent_ofTable t c moduleName, h, List.prefix_append _ _⟩
  · simp [find?, ofTable]
  · simp [TypeDef.value?, Table.contains, Table.find?]

/-- The image of constants of all four kinds is read back with a byte behind it. -/
theorem decode_render_append_of_four_kinds :
    ∃ bytes type,
      Artifact.render .image ⟨[⟨"GREETING", .string "say \"hé\""⟩, ⟨"LOW", .int (-2147483648)⟩,
        ⟨"DIRS", .stringArray ["a;b", ""]⟩, ⟨"DEBUG", .bool true⟩], by decide⟩ ⟨["A", "B"], "C"⟩
          "out" = .ok bytes ∧
      ((decode (bytes ++ [0xFF])).toOption.bind fun image => image.find? "A::B::C") = some type ∧
      type.value? "LOW" = some (.int (-2147483648)) ∧ type.value? "HIGH" = none := by
  obtain ⟨bytes, type, hbytes, hdecode, hfind, -, hvalue, -⟩ := decode_render_append
    ⟨[⟨"GREETING", .string "say \"hé\""⟩, ⟨"LOW", .int (-2147483648)⟩,
      ⟨"DIRS", .stringArray ["a;b", ""]⟩, ⟨"DEBUG", .bool true⟩], by decide⟩ ⟨["A", "B"], "C"⟩ "out"
    (by decide) [0xFF]
  have hpath : Container.fullName ⟨["A", "B"], "C"⟩ = "A::B::C" := by decide
  rw [hpath] at hfind
  refine ⟨bytes, type, hbytes, ?_, ?_, ?_⟩
  · rw [hdecode]
    exact hfind
  · rw [hvalue]
    decide
  · rw [hvalue]
    decide

/-- **Decoding is canonical**: the accepted bytes are exactly the written forms of current images,
each followed by anything, and bytes that end before such an image does are malformed. -/
theorem decode_canonical :
    (∀ bytes image, decode bytes = .ok image ↔
      image.IsCurrent ∧ image.Fits ∧ Wire.encodeImage image <+: bytes) ∧
    ∀ image bytes, image.IsCurrent → image.Fits → bytes <+: Wire.encodeImage image →
      bytes ≠ Wire.encodeImage image → ∃ fault, decode bytes = .error (.malformed fault) := by
  refine ⟨fun _ _ => decode_eq_ok_iff, fun image bytes hcurrent hfits hprefix hne => ?_⟩
  obtain ⟨missing, hcut⟩ := hprefix
  refine decode_of_cut hcurrent hfits (fun hnil => hne ?_) hcut
  rw [← hcut, hnil, List.append_nil]

/-- An image with values of all four kinds is read with a byte behind it.  Without its last byte it
ends inside a character of the last text of its list, and is malformed. -/
theorem decode_canonical_of_cut_character :
    let image : Image := ⟨.current, "out", [⟨⟨["A", "B"], "C"⟩,
      [⟨"GREETING", .string "say \"hé\""⟩, ⟨"DEBUG", .bool true⟩, ⟨"LOW", .int (-2147483648)⟩,
        ⟨"DIRS", .stringArray ["a;b", "", "é"]⟩]⟩]⟩
    let whole := Wire.encodeImage image
    let cut := whole.dropLast
    decode (whole ++ [0xFF]) = .ok image ∧
      cut ++ [0xA9] = whole ∧ ∃ fault, decode cut = .error (.malformed fault) := by
  intro image whole cut
  have hcurrent : image.IsCurrent := ⟨rfl, rfl⟩
  have hfits : image.Fits := by decide +kernel
  have hcut : cut ++ [0xA9] = whole := by decide +kernel
  have hne : cut ≠ whole := fun heq => by simp [heq] at hcut
  exact ⟨(decode_canonical.1 _ _).2 ⟨hcurrent, hfits, List.prefix_append _ _⟩, hcut,
    decode_canonical.2 image cut hcurrent hfits ⟨[0xA9], hcut⟩ hne⟩

/-- **Foreign images and those of other versions are told apart before the rest is looked at.**
Bytes that begin with a header are refused by its marking bytes if those are not the ones of module
images, whatever follows them, and otherwise by its version if that is another one, whatever follows
the header.  A header with both is kept as it is by every image that is read.  Fewer bytes than
marking bytes are malformed, and bytes that do not begin with the marking bytes are refused by them.

The number of bytes of the generator's name has to be short enough to be written in the header. -/
theorem decode_by_header :
    (∀ (header : Header) (rest : List UInt8),
      (header.magic ≠ magic → decode (Wire.encodeHeader header ++ rest) = .error .badMagic) ∧
      (header.magic = magic → Wire.TextFits header.generator →
        (header.version ≠ 1 →
          decode (Wire.encodeHeader header ++ rest) =
            .error (.unsupportedVersion header.version)) ∧
        (header.version = 1 →
          (∃ fault, decode (Wire.encodeHeader header ++ rest) = .error (.malformed fault)) ∨
            ∃ image, decode (Wire.encodeHeader header ++ rest) = .ok image ∧
              image.header = header))) ∧
    (∀ bytes : List UInt8, bytes.length < 8 →
      ∃ fault, decode bytes = .error (.malformed fault)) ∧
    ∀ bytes : List UInt8, 8 ≤ bytes.length → ¬magic.toList <+: bytes →
      decode bytes = .error .badMagic := by
  refine ⟨fun header rest => ⟨fun hmagic => ?_, fun hmagic hfits => ⟨fun hversion => ?_,
    fun hversion => ?_⟩⟩, fun _ => decode_of_length_lt, fun _ => decode_of_foreign⟩
  · simp only [Wire.encodeHeader, List.append_assoc]
    exact decode_of_ne_magic hmagic _
  · rw [decode_encodeHeader_append hmagic hfits]
    exact if_pos hversion
  · cases hdecode : decode (Wire.encodeHeader header ++ rest) with
    | ok image => exact .inr ⟨image, rfl, header_of_decode hfits hdecode⟩
    | error fault =>
      have hcurrent : header.version = formatVersion := hversion
      rw [decode_encodeHeader_append hmagic hfits, if_neg (not_not_intro hcurrent)] at hdecode
      split at hdecode
      next reason _ =>
        cases hdecode
        exact .inl ⟨reason, rfl⟩
      next => cases hdecode

/-- A header of another version is refused with nothing behind it, one with other marking bytes is
refused by them although its version is another one too, and a current one with nothing behind it is
no image of another header.  Bytes that miss the first marking byte are refused, and seven marking
bytes are malformed. -/
theorem decode_by_header_of_other_version :
    decode (Wire.encodeHeader ⟨magic, 0x0102, "fremd-é"⟩ ++ []) =
        .error (.unsupportedVersion 0x0102) ∧
      decode (Wire.encodeHeader ⟨Vector.replicate 8 0x20, 0x0102, "fremd-é"⟩ ++ []) =
        .error .badMagic ∧
      ((∃ fault, decode (Wire.encodeHeader ⟨magic, 1, "fremd-é"⟩ ++ []) =
          .error (.malformed fault)) ∨
        ∃ image, decode (Wire.encodeHeader ⟨magic, 1, "fremd-é"⟩ ++ []) = .ok image ∧
          image.header = ⟨magic, 1, "fremd-é"⟩) ∧
      decode (magic.toList.tail ++ [0x54]) = .error .badMagic ∧
      ∃ fault, decode (magic.toList.take 7) = .error (.malformed fault) :=
  have hfits : Wire.TextFits "fremd-é" := by decide
  ⟨((decode_by_header.1 ⟨magic, 0x0102, "fremd-é"⟩ []).2 rfl hfits).1 (by decide),
    (decode_by_header.1 ⟨Vector.replicate 8 0x20, 0x0102, "fremd-é"⟩ []).1 (by decide),
    ((decode_by_header.1 ⟨magic, 1, "fremd-é"⟩ []).2 rfl hfits).2 rfl,
    decode_by_header.2.2 (magic.toList.tail ++ [0x54]) (by decide) (by decide),
    decode_by_header.2.1 (magic.toList.take 7) (by decide)⟩

end BuildConst.Image
