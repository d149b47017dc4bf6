import BuildConst.Proofs.Commands
import BuildConst.Proofs.Image.Decoding
import BuildConst.Proofs.Json.Pretty

/-!
# Images are read back from their documents

An image that is inspected may be shown as a document instead of as lines of text.  What is shown
then is the whole image: its header with the marking bytes as numbers, its name, and its types with
their accessors in order, each value under the name of its kind.  So the image is found again in the
text, whatever texts it holds and however many types and accessors of the same name.

## Main definitions

* `Json.member?`, `Json.text?`, `Json.truth?`, `Json.integer?`, `Json.list?` — the parts of a
  document.
* `Image.ofJson?`, `Image.ofText?` — the image of a document and of a text.

## Main results

* `Image.ofJson?_toJson` — an image is found again in its document.
* `Image.document_inspected` — what is shown is a text of that document.
* `inspected_images_recovered` — no two images are shown in the same way.
-/

set_option relaxedAutoImplicit false
set_option autoImplicit false

namespace BuildConst

/-! ## Parts of documents -/

namespace Json

/-- The value of a member of an object whose key occurs once. -/
def member? (key : String) : Json → Option Json
  | .object members =>
    match valuesOf key members with
    | [value] => some value
    | _ => none
  | _ => none

/-- The text of a string. -/
def text? : Json → Option String
  | .string text => some text
  | _ => none

/-- The truth value of a document. -/
def truth? : Json → Option Bool
  | .bool truth => some truth
  | _ => none

/-- The integer of a number, if it lies between two bounds. -/
def integer? (low high : Int) : Json → Option Int
  | .number (.whole n) => if low ≤ n ∧ n ≤ high then some n else none
  | _ => none

/-- The items of a list, if each of them can be read. -/
def list? {α : Type} (item? : Json → Option α) : Json → Option (List α)
  | .array items => items.mapM item?
  | _ => none

/-- An integer between the bounds is found again. -/
theorem integer?_whole {low high n : Int} (hlow : low ≤ n) (hhigh : n ≤ high) :
    integer? low high (.number (.whole n)) = some n := by
  rw [integer?, if_pos ⟨hlow, hhigh⟩]

/-- Items that are found again one by one are found again in their list. -/
theorem list?_map {α : Type} {item? : Json → Option α} {write : α → Json}
    (h : ∀ a, item? (write a) = some a) (as : List α) :
    list? item? (.array (as.map write)) = some as := by
  have hitems : item? ∘ write = some := funext h
  rw [list?, List.mapM_map, hitems, mapM_some]

/-- Strings are found again in their list. -/
theorem list?_string (texts : List String) :
    list? text? (.array (texts.map .string)) = some texts :=
  @list?_map String text? .string (fun _ => rfl) texts

end Json

/-! ## Images of documents -/

/-- The value of a kind that a document holds. -/
def Value.ofContent? (content : Json) : Kind → Option Value
  | .string => content.text?.map .string
  | .bool => content.truth?.map .bool
  | .int => (content.integer? (-2147483648) 2147483647).map fun n => .int (Int32.ofInt n)
  | .stringArray => (content.list? Json.text?).map .stringArray

/-- The value of an object with a single member, which is named for the kind. -/
def Value.ofJson? : Json → Option Value
  | .object [(tag, content)] =>
    (Kind.all.find? fun k => k.name == tag).bind (ofContent? content)
  | _ => none

namespace Image

/-- The byte of a number. -/
def byteOfJson? (v : Json) : Option UInt8 :=
  (v.integer? 0 255).map fun n => UInt8.ofNat n.toNat

/-- The accessor of a document. -/
def accessorOfJson? (v : Json) : Option Constant := do
  let name ← (v.member? "name").bind Json.text?
  let value ← (v.member? "value").bind Value.ofJson?
  some ⟨name, value⟩

/-- The type of a document. -/
def TypeDef.ofJson? (v : Json) : Option TypeDef := do
  let segments ← (v.member? "namespace").bind (Json.list? Json.text?)
  let name ← (v.member? "name").bind Json.text?
  let accessors ← (v.member? "accessors").bind (Json.list? accessorOfJson?)
  some ⟨⟨segments, name⟩, accessors⟩

/-- The header of a document: there are eight marking bytes. -/
def Header.ofJson? (v : Json) : Option Header := do
  let bytes ← (v.member? "magic").bind (Json.list? byteOfJson?)
  let version ← (v.member? "format_version").bind (Json.integer? 0 65535)
  let generator ← (v.member? "generator").bind Json.text?
  if h : bytes.toArray.size = 8 then
    some ⟨⟨bytes.toArray, h⟩, UInt16.ofNat version.toNat, generator⟩
  else none

/-- The image of a document.  Every member has to occur once, and others do not matter. -/
def ofJson? (v : Json) : Option Image := do
  let header ← (v.member? "header").bind Header.ofJson?
  let name ← (v.member? "name").bind Json.text?
  let types ← (v.member? "types").bind (Json.list? TypeDef.ofJson?)
  some ⟨header, name, types⟩

/-- The image of a text. -/
def ofText? (text : String) : Option Image :=
  (Json.read text).toOption.bind ofJson?

end Image

/-! ## Documents of images -/

/-- A value is found again in its document. -/
theorem Value.ofJson?_toJson (v : Value) : ofJson? v.toJson = some v := by
  cases v with
  | string text => rfl
  | bool truth => rfl
  | int n =>
    have hlow : -2147483648 ≤ n.toInt := n.le_toInt
    have hhigh : n.toInt ≤ 2147483647 := n.toInt_le
    have hcontent : ofContent? (.number (.whole n.toInt)) .int = some (.int n) := by
      rw [ofContent?, Json.integer?_whole hlow hhigh, Option.map_some, Int32.ofInt_toInt]
    exact hcontent
  | stringArray items =>
    have hcontent : ofContent? (.array (items.map .string)) .stringArray =
        some (.stringArray items) := by
      rw [ofContent?, Json.list?_string, Option.map_some]
    exact hcontent

namespace Image

/-- An accessor is found again in its document. -/
theorem accessorOfJson?_accessorJson (a : Constant) :
    accessorOfJson? (accessorJson a) = some a := by
  simp [accessorOfJson?, accessorJson, Json.member?, Json.valuesOf, Json.text?,
    Value.ofJson?_toJson]

/-- A type is found again in its document. -/
theorem TypeDef.ofJson?_toJson (t : TypeDef) : ofJson? t.toJson = some t := by
  simp [ofJson?, toJson, Json.member?, Json.valuesOf, Json.text?, Json.list?_string,
    Json.list?_map accessorOfJson?_accessorJson]

/-- A byte is found again in its number. -/
theorem byteOfJson?_ofNat (b : UInt8) : byteOfJson? (.ofNat b.toNat) = some b := by
  have hbound : (b.toNat : Int) ≤ 255 := Int.ofNat_le.2 (Nat.le_of_lt_succ b.toNat_lt)
  rw [byteOfJson?, Json.ofNat, Json.integer?_whole (Int.natCast_nonneg _) hbound, Option.map_some,
    Int.toNat_natCast, UInt8.ofNat_toNat]

/-- A header is found again in its document. -/
theorem Header.ofJson?_toJson (h : Header) : ofJson? h.toJson = some h := by
  have hbound : (h.version.toNat : Int) ≤ 65535 :=
    Int.ofNat_le.2 (Nat.le_of_lt_succ h.version.toNat_lt)
  have hversion : Json.integer? 0 65535 (.ofNat h.version.toNat) = some (h.version.toNat : Int) :=
    Json.integer?_whole (Int.natCast_nonneg _) hbound
  simp [ofJson?, toJson, Json.member?, Json.valuesOf, Json.text?, Json.list?_map byteOfJson?_ofNat,
    hversion]
  rfl

/-- **An image is found again in its document.** -/
theorem ofJson?_toJson (image : Image) : ofJson? image.toJson = some image := by
  simp [ofJson?, toJson, Json.member?, Json.valuesOf, Json.text?, Header.ofJson?_toJson,
    Json.list?_map TypeDef.ofJson?_toJson]

/-! ## Form of documents of images -/

/-- The document of an accessor holds integers only. -/
theorem integral_accessorJson (a : Constant) : (accessorJson a).Integral := by
  have hcontent : a.value.toJson.Integral := by
    refine .object fun member hmember => ?_
    rw [List.mem_singleton.1 hmember]
    cases a.value with
    | string text => exact .string text
    | bool truth => exact .bool truth
    | int n =>
      have hlow := n.le_toInt
      have hhigh := n.toInt_lt
      exact .number (by omega) (by omega)
    | stringArray items => exact .array (List.forall_mem_map.2 fun item _ => .string item)
  refine .object ?_
  simp only [List.forall_mem_cons]
  exact ⟨.string a.name, hcontent, List.forall_mem_nil _⟩

/-- The document of a type holds integers only. -/
theorem TypeDef.integral_toJson (t : TypeDef) : t.toJson.Integral := by
  refine .object ?_
  simp only [List.forall_mem_cons]
  exact ⟨.array (List.forall_mem_map.2 fun segment _ => .string segment),
    .string t.container.name,
    .array (List.forall_mem_map.2 fun a _ => integral_accessorJson a), List.forall_mem_nil _⟩

/-- The document of a header holds integers only. -/
theorem Header.integral_toJson (h : Header) : h.toJson.Integral := by
  refine .object ?_
  simp only [List.forall_mem_cons]
  have hversion := h.version.toNat_lt
  refine ⟨.array (List.forall_mem_map.2 fun b _ => ?_), Json.integral_ofNat (by omega),
    .string h.generator, List.forall_mem_nil _⟩
  have hbyte := b.toNat_lt
  exact Json.integral_ofNat (by omega)

/-- **The document of an image holds integers only.** -/
theorem integral_toJson (image : Image) : image.toJson.Integral := by
  refine .object ?_
  simp only [List.forall_mem_cons]
  exact ⟨image.header.integral_toJson, .string image.name,
    .array (List.forall_mem_map.2 fun t _ => t.integral_toJson), List.forall_mem_nil _⟩

/-- Strings in a list are nested once. -/
theorem depth_strings_le (texts : List String) :
    (Json.array (texts.map .string)).depth ≤ 1 :=
  Nat.succ_le_succ (Json.itemsDepth_le (List.forall_mem_map.2 fun _ _ => Nat.le_refl 0))

/-- The document of an accessor is nested three deep at most. -/
theorem depth_accessorJson_le (a : Constant) : (accessorJson a).depth ≤ 3 := by
  have hcontent : a.value.toJson.depth ≤ 2 := by
    cases a.value with
    | stringArray items =>
      have hitems := depth_strings_le items
      simp only [Value.toJson, Json.depth, Json.membersDepth] at hitems ⊢
      omega
    | _ => simp [Value.toJson, Json.depth, Json.membersDepth]
  simp only [accessorJson, Json.depth, Json.membersDepth]
  omega

/-- The document of a type is nested five deep at most. -/
theorem TypeDef.depth_toJson_le (t : TypeDef) : t.toJson.depth ≤ 5 := by
  have hsegments := depth_strings_le t.container.segments
  have haccessors : Json.itemsDepth (t.accessors.map accessorJson) ≤ 3 :=
    Json.itemsDepth_le (List.forall_mem_map.2 fun a _ => depth_accessorJson_le a)
  simp only [toJson, Json.depth, Json.membersDepth] at hsegments ⊢
  omega

/-- The document of a header is nested two deep at most. -/
theorem Header.depth_toJson_le (h : Header) : h.toJson.depth ≤ 2 := by
  have hbytes : Json.itemsDepth (h.magic.toList.map fun b => Json.ofNat b.toNat) ≤ 0 :=
    Json.itemsDepth_le (List.forall_mem_map.2 fun _ _ => Nat.le_refl 0)
  simp only [toJson, Json.ofNat, Json.depth, Json.membersDepth] at hbytes ⊢
  omega

/-- **The document of an image is nested seven deep at most**, whatever the image holds. -/
theorem depth_toJson_le (image : Image) : image.toJson.depth ≤ 7 := by
  have hheader := image.header.depth_toJson_le
  have htypes : Json.itemsDepth (image.types.map TypeDef.toJson) ≤ 5 :=
    Json.itemsDepth_le (List.forall_mem_map.2 fun t _ => t.depth_toJson_le)
  simp only [toJson, Json.depth, Json.membersDepth]
  omega

/-! ## Inspection -/

/-- **What is shown of an image is a text of its document.** -/
theorem document_inspected (image : Image) :
    image.toJson.Document (Command.inspected image true).stdout :=
  image.integral_toJson.document_pretty (by decide)

/-- The document is read again from what is shown. -/
theorem read_inspected (image : Image) :
    Json.read (Command.inspected image true).stdout = .ok image.toJson := by
  have hdepth : 7 < Json.depthLimit := by decide
  exact Json.read_of_document (Nat.lt_of_le_of_lt image.depth_toJson_le hdepth)
    image.document_inspected

/-- **The image is found again in what is shown of it.** -/
theorem ofText?_inspected (image : Image) :
    ofText? (Command.inspected image true).stdout = some image := by
  rw [ofText?, read_inspected]
  exact image.ofJson?_toJson

end Image

/-! ## Main result -/

/-- **Nothing is lost when an image is inspected as a document.**  For all bytes that an image is
decoded from, and wherever they are stored, what is printed is a text of the grammar of documents.
Reading it gives the document of the image, and that document gives exactly the image, with its
header, its name and all its types and accessors in order.  So another image that is shown in the
same way is the same image.

**Proof sketch.** The text is indented, but it is one of the texts of the image's document, and a
document is read back from each of its texts if it is not nested too deeply; that of an image is
nested seven deep at most.  Each member of the document has a key of its own, so the parts of the
image are found again one by one. -/
theorem inspected_images_recovered {bytes : List UInt8} {image : Image}
    (h : Image.decode bytes = .ok image) :
    let shown := (Command.inspected image true).stdout
    (∀ arguments path (disk : Disk), Command.parse arguments = .ok (.inspect path true) →
      disk.read path = .ok bytes →
      (answer arguments : StateM Disk Reply).run disk = ({ exit := 0, stdout := shown }, disk)) ∧
    image.toJson.Document shown ∧
    Json.read shown = .ok image.toJson ∧
    Image.ofJson? image.toJson = some image ∧
    ∀ other : Image, (Command.inspected other true).stdout = shown → other = image := by
  intro shown
  refine ⟨fun arguments path disk hparse hread => run_answer_inspect hparse hread h,
    image.document_inspected, image.read_inspected, image.ofJson?_toJson, fun other hother => ?_⟩
  have hsame : Image.ofText? (Command.inspected other true).stdout = some image := by
    rw [hother]
    exact image.ofText?_inspected
  rw [other.ofText?_inspected] at hsame
  exact Option.some.inj hsame

/-- An image with a control character in its name, two accessors of one name, an empty list and a
type without accessors, stored with a byte behind it. -/
theorem inspected_images_recovered_of_repeated_accessor :
    let image : Image := ⟨.current, "m\x01",
      [⟨⟨[], "C"⟩, [⟨"A", .stringArray []⟩, ⟨"A", .int (-1)⟩]⟩, ⟨⟨["N"], ""⟩, []⟩]⟩
    let disk : Disk := ⟨[(["m"], .file (Wire.encodeImage image ++ [0xFF]))], []⟩
    Image.decode (Wire.encodeImage image ++ [0xFF]) = .ok image ∧
    ∃ shown,
      (answer ["inspect", "--json", "/m"] : StateM Disk Reply).run disk =
        ({ exit := 0, stdout := shown }, disk) ∧
      image.toJson.Document shown ∧ (Json.read shown).toOption.bind Image.ofJson? = some image := by
  intro image disk
  have hdecode : Image.decode (Wire.encodeImage image ++ [0xFF]) = .ok image :=
    Image.decode_eq_ok_iff.2 ⟨⟨rfl, rfl⟩, by decide, List.prefix_append _ _⟩
  have hparse : Command.parse ["inspect", "--json", "/m"] = .ok (.inspect "/m" true) := by decide
  have hstored : disk.read "/m" = .ok (Wire.encodeImage image ++ [0xFF]) := by rfl
  obtain ⟨hrun, hdocument, hread, himage, -⟩ := inspected_images_recovered hdecode
  refine ⟨hdecode, _, hrun _ _ disk hparse hstored, hdocument, ?_⟩
  rw [hread]
  exact himage

end BuildConst
