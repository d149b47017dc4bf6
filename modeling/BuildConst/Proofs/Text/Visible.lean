import Mathlib.Tactic.SplitIfs
import BuildConst.Proofs.Decimal
import BuildConst.Proofs.Text.Hexadecimal
import BuildConst.Value

/-!
# Visible texts

A text is visible if every character of it is printable.  Such a text has no line break, and no
character in it moves, hides or reorders the ones around it: controls, format characters, separators
other than the space, private-use and unassigned characters and combining marks are not printable.
Quoting makes any text visible, so rendered values are, whatever characters they are made of.

## Main definitions

* `Text.ArePrintable`, `Text.IsVisible` — all characters are printable.
* `Text.IsHidden` — characters that can do harm when they are shown as they are.

## Main results

* `Text.not_isHidden_of_isPrintable` — no printable character is among the hidden ones.
* `Text.isVisible_quote` — quoted texts are visible.
* `Value.isVisible_rendered` — rendered values are visible.
-/

set_option relaxedAutoImplicit false
set_option autoImplicit false

namespace BuildConst

namespace Text

/-- Characters that all are printable. -/
def ArePrintable (cs : List Char) : Prop :=
  ∀ c ∈ cs, isPrintable c = true

-- The characters are looked at one by one, not all that there are.
instance (cs : List Char) : Decidable (ArePrintable cs) :=
  List.decidableBAll (fun c => isPrintable c = true) cs

/-- A text whose characters all are printable. -/
def IsVisible (s : String) : Prop :=
  ArePrintable s.toList

instance (s : String) : Decidable (IsVisible s) :=
  inferInstanceAs (Decidable (ArePrintable s.toList))

/-! ## Hidden characters -/

/-- The control characters, the line break among them. -/
def controls : List (Nat × Nat) :=
  [(0x0, 0x1F), (0x7F, 0x9F)]

/-- The format characters: joiners, marks and overrides of the writing direction, and tags. -/
def formats : List (Nat × Nat) :=
  [(0xAD, 0xAD), (0x600, 0x605), (0x61C, 0x61C), (0x6DD, 0x6DD), (0x70F, 0x70F), (0x890, 0x891),
   (0x8E2, 0x8E2), (0x180E, 0x180E), (0x200B, 0x200F), (0x202A, 0x202E), (0x2060, 0x206F),
   (0xFEFF, 0xFEFF), (0xFFF9, 0xFFFB), (0x110BD, 0x110BD), (0x110CD, 0x110CD), (0x13430, 0x1343F),
   (0x1BCA0, 0x1BCA3), (0x1D173, 0x1D17A), (0xE0001, 0xE007F)]

/-- The separators of lines, paragraphs and words, apart from the space. -/
def separators : List (Nat × Nat) :=
  [(0xA0, 0xA0), (0x1680, 0x1680), (0x2000, 0x200A), (0x2028, 0x2029), (0x202F, 0x202F),
   (0x205F, 0x205F), (0x3000, 0x3000)]

/-- The characters for private use. -/
def privateUse : List (Nat × Nat) :=
  [(0xE000, 0xF8FF), (0xF0000, 0xFFFFD), (0x100000, 0x10FFFD)]

/-- The noncharacters, and the planes without any character.  This is a selection of blocks among
the unassigned characters, all of which are in `Unprintable.chars`. -/
def unassigned : List (Nat × Nat) :=
  [(0xFDD0, 0xFDEF), (0xFFFE, 0xFFFF), (0x1FFFE, 0x1FFFF), (0x2FFFE, 0x2FFFF), (0x3FFFE, 0xDFFFF),
   (0xEFFFE, 0xEFFFF), (0xFFFFE, 0xFFFFF), (0x10FFFE, 0x10FFFF)]

/-- The blocks of combining marks and the variation selectors.  This is a selection of blocks among
the characters that extend the one before them, all of which but the half-width sound marks are in
`Unprintable.chars`. -/
def marks : List (Nat × Nat) :=
  [(0x300, 0x36F), (0x483, 0x489), (0x1AB0, 0x1ACE), (0x1DC0, 0x1DFF), (0x20D0, 0x20F0),
   (0x302A, 0x302D), (0x3099, 0x309A), (0xFE00, 0xFE0F), (0xFE20, 0xFE2F), (0xE0100, 0xE01EF)]

/-- The ranges of all of these. -/
def hidden : List (Nat × Nat) :=
  controls ++ formats ++ separators ++ privateUse ++ unassigned ++ marks

/-- A character that can do harm when it is shown as it is. -/
def IsHidden (c : Char) : Prop :=
  ∃ range ∈ hidden, range.1 ≤ c.toNat ∧ c.toNat ≤ range.2

/-- Each range of hidden characters lies inside a range of unprintable ones. -/
theorem unprintable_of_hidden :
    ∀ range ∈ hidden, ∃ wide ∈ Unprintable.chars.ranges,
      wide.1 ≤ range.1 ∧ range.2 ≤ wide.2 := by
  -- The ranges are compared by a test, which is much faster to evaluate than the statement itself.
  have hall : (hidden.all fun range => Unprintable.chars.ranges.any fun wide =>
      wide.1.ble range.1 && range.2.ble wide.2) = true := by
    decide +kernel
  intro range hrange
  have hinside := List.all_eq_true.1 hall range hrange
  simpa only [List.any_eq_true, Bool.and_eq_true, Nat.ble_eq] using hinside

/-- **No printable character is hidden.** -/
theorem not_isHidden_of_isPrintable {c : Char} (h : isPrintable c = true) : ¬IsHidden c := by
  rintro ⟨range, hrange, hlow, hhigh⟩
  obtain ⟨wide, hwide, hfirst, hlast⟩ := unprintable_of_hidden range hrange
  have hinside : Unprintable.chars.contains c = true :=
    (Unprintable.chars.contains_iff c).2
      ⟨wide, hwide, Nat.le_trans hfirst hlow, Nat.le_trans hhigh hlast⟩
  simp [isPrintable, hinside] at h

/-! ## Printable characters -/

/-- The characters from the space up to the tilde are printable. -/
theorem isPrintable_of_ascii {c : Char} (hlow : 0x20 ≤ c.toNat) (hhigh : c.toNat < 0x7F) :
    isPrintable c = true := by
  have hranges : Unprintable.chars.ranges =
      (0x0, 0x1F) :: (0x7F, 0xA0) :: Unprintable.chars.ranges.drop 2 := rfl
  have hfirst : ¬c.toNat ≤ 0x1F := by omega
  have hsecond : ¬0x7F ≤ c.toNat := by omega
  rw [isPrintable, CharSet.contains, hranges]
  simp [inAscending, hfirst, hsecond]

/-- A character from the space up to the tilde. -/
def isPlain (c : Char) : Bool :=
  0x20 ≤ c.toNat && c.toNat < 0x7F

/-- Plain characters are printable. -/
theorem arePrintable_of_isPlain {cs : List Char} (h : cs.all isPlain = true) :
    ArePrintable cs := by
  intro c hc
  have hplain := List.all_eq_true.1 h c hc
  simp only [isPlain, Bool.and_eq_true, decide_eq_true_eq] at hplain
  exact isPrintable_of_ascii hplain.1 hplain.2

/-- A text of plain characters is visible. -/
theorem isVisible_of_isPlain {s : String} (h : s.toList.all isPlain = true) : IsVisible s :=
  arePrintable_of_isPlain h

/-- Digits are printable. -/
theorem isPrintable_of_isDigit {c : Char} (h : c.isDigit = true) : isPrintable c = true := by
  rw [Char.isDigit, Bool.and_eq_true, decide_eq_true_eq, decide_eq_true_eq, ge_iff_le,
    UInt32.le_iff_toNat_le, UInt32.le_iff_toNat_le] at h
  change 0x30 ≤ c.toNat ∧ c.toNat ≤ 0x39 at h
  exact isPrintable_of_ascii (by omega) (by omega)

/-- Hexadecimal digits are printable. -/
theorem HexNumeral.arePrintable {cs : List Char} {n : Nat} (h : HexNumeral cs n) :
    ArePrintable cs := by
  have hdigit {c : Char} {d : Nat} (hd : HexDigit c d) : isPrintable c = true := by
    have hall : ∀ d < 16, [Nat.digitChar d, (Nat.digitChar d).toUpper].all isPlain = true := by
      decide
    obtain ⟨hd, hc⟩ := hd
    exact arePrintable_of_isPlain (hall d hd) c (by simpa using hc)
  induction h with
  | digit h => exact fun c hc => List.mem_singleton.1 hc ▸ hdigit h
  | concat _ hd ih =>
    intro c hc
    rcases List.mem_append.1 hc with hfront | hlast
    · exact ih c hfront
    · exact List.mem_singleton.1 hlast ▸ hdigit hd

/-- Whatever character is escaped, its escape is printable. -/
theorem arePrintable_escape (c : Char) : ArePrintable (escape c) := by
  unfold escape
  split_ifs with _ _ _ _ _ _ hprintable
  · exact arePrintable_of_isPlain (by decide)
  · exact arePrintable_of_isPlain (by decide)
  · exact arePrintable_of_isPlain (by decide)
  · exact arePrintable_of_isPlain (by decide)
  · exact arePrintable_of_isPlain (by decide)
  · exact arePrintable_of_isPlain (by decide)
  · exact fun d hd => List.mem_singleton.1 hd ▸ hprintable
  · have hopen : ArePrintable ['\\', 'u', '{'] := arePrintable_of_isPlain (by decide)
    have hclose : ArePrintable ['}'] := arePrintable_of_isPlain (by decide)
    have hdigits := (hexNumeral_toDigits c.toNat).arePrintable
    exact List.forall_mem_append.2 ⟨List.forall_mem_append.2 ⟨hopen, hdigits⟩, hclose⟩

/-! ## Visible texts -/

/-- A text of two parts is visible exactly if both of them are. -/
theorem isVisible_append {s t : String} : IsVisible (s ++ t) ↔ IsVisible s ∧ IsVisible t := by
  unfold IsVisible ArePrintable
  rw [String.toList_append]
  exact List.forall_mem_append

/-- Visible texts with a visible separator between them are visible. -/
theorem isVisible_intercalate {sep : String} (hsep : IsVisible sep) {ls : List String}
    (h : ∀ l ∈ ls, IsVisible l) : IsVisible (sep.intercalate ls) := by
  induction ls with
  | nil => exact fun c hc => absurd hc List.not_mem_nil
  | cons l ls ih =>
    have hfirst := h l List.mem_cons_self
    cases ls with
    | nil => simpa using hfirst
    | cons next ls =>
      have hrest := ih fun l' hl' => h l' (List.mem_cons_of_mem _ hl')
      rw [String.intercalate_cons_cons, isVisible_append, isVisible_append]
      exact ⟨⟨hfirst, hsep⟩, hrest⟩

/-- A text in quotes is visible if its written characters are. -/
theorem isVisible_between_quotes {body : List Char} (h : ArePrintable body) :
    IsVisible (String.ofList ('"' :: body ++ ['"'])) := by
  have hquote : ArePrintable ['"'] := arePrintable_of_isPlain (by decide)
  rw [IsVisible, String.toList_ofList]
  exact List.forall_mem_append.2 ⟨List.forall_mem_append.2 ⟨hquote, h⟩, hquote⟩

/-- **Quoted texts are visible**, whatever characters they are made of. -/
theorem isVisible_quote (s : String) : IsVisible (quote s) := by
  refine isVisible_between_quotes fun d hd => ?_
  obtain ⟨c, -, hc⟩ := List.mem_flatMap.1 hd
  exact arePrintable_escape c d hc

/-- The decimal form of an integer is visible. -/
theorem isVisible_toString (n : Int) : IsVisible (toString n) := by
  have hdigits (m : Nat) : ∀ c ∈ (toString m).toList, isPrintable c = true := by
    intro c hc
    rw [Nat.toString_eq_repr, Nat.toList_repr] at hc
    exact isPrintable_of_isDigit (Decimal.isDigit_toDigits m c hc)
  cases n with
  | ofNat m => exact hdigits m
  | negSucc m =>
    have hminus : IsVisible "-" := isVisible_of_isPlain (by decide)
    exact isVisible_append.2 ⟨hminus, hdigits (m + 1)⟩

end Text

/-! ## Values -/

/-- **Rendered values are visible**, whatever characters they are made of. -/
theorem Value.isVisible_rendered (v : Value) : Text.IsVisible v.rendered := by
  cases v with
  | string text => exact Text.isVisible_quote text
  | bool truth => cases truth <;> exact Text.isVisible_of_isPlain (by decide)
  | int number => exact Text.isVisible_toString number.toInt
  | stringArray items =>
    have hitems : ∀ l ∈ items.map Text.quote, Text.IsVisible l := by
      intro l hl
      obtain ⟨item, -, rfl⟩ := List.mem_map.1 hl
      exact Text.isVisible_quote item
    have hopen : Text.IsVisible "[" := Text.isVisible_of_isPlain (by decide)
    have hcomma : Text.IsVisible ", " := Text.isVisible_of_isPlain (by decide)
    have hclose : Text.IsVisible "]" := Text.isVisible_of_isPlain (by decide)
    rw [rendered, Text.isVisible_append, Text.isVisible_append]
    exact ⟨⟨hopen, Text.isVisible_intercalate hcomma hitems⟩, hclose⟩

end BuildConst
