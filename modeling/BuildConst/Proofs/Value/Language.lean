import BuildConst.Proofs.Decimal.Numeral
import BuildConst.Proofs.Text.Trimming
import BuildConst.Proofs.Value.Reading

/-!
# Which texts denote which values

Every text denotes itself.  A truth value is a word or a numeral with blanks around it, an integer is
a numeral with blanks around it, and a list is what stands between semicolons.  What is read from a
text by some kind is the value of that kind that the text denotes.

## Main definitions

* `Value.Runs` — the stretches of a text between semicolons.
* `Value.Denotes` — the values that a text denotes.
* `Value.Complaint` — what is reported if a text denotes no value of a kind.

## Main results

* `Value.readItems_eq_ok_iff`, `Value.readBool_eq_ok_iff`, `Value.readInt_eq_ok_iff` — what is read.
* `Value.readBool_eq_word_iff`, `Value.readBool_eq_numeric_iff` — words and numerals apart.
* `Value.read_eq_ok_iff`, `Value.complaint_of_read` — reading a value by its kind.
-/

set_option relaxedAutoImplicit false
set_option autoImplicit false

namespace BuildConst.Value

/-- The stretches of a text between semicolons, without the empty ones. -/
inductive Runs : List Char → List String → Prop
  | nil : Runs [] []
  | skip {rest : List Char} {items : List String} (h : Runs rest items) : Runs (';' :: rest) items
  | last {item : String} (hne : item ≠ "") (hfree : ';' ∉ item.toList) : Runs item.toList [item]
  | item {item : String} {rest : List Char} {items : List String} (hne : item ≠ "")
      (hfree : ';' ∉ item.toList) (h : Runs rest items) :
      Runs (item.toList ++ ';' :: rest) (item :: items)

/-- The values that a text denotes. -/
inductive Denotes (text : String) : Value → Prop
  | string : Denotes text (.string text)
  | yes {word : String} (h : Text.Padded word text) (hword : Text.Recased word "true") :
      Denotes text (.bool true)
  | no {word : String} (h : Text.Padded word text) (hword : Text.Recased word "false") :
      Denotes text (.bool false)
  | number {word : String} {n : Int} (h : Text.Padded word text)
      (hword : Decimal.Numeral word.toList n) (hfits : Decimal.Fits 64 n) :
      Denotes text (.bool (n ≠ 0))
  | int {word : String} {number : Int32} (h : Text.Padded word text)
      (hword : Decimal.Numeral word.toList number.toInt) : Denotes text (.int number)
  | items {items : List String} (h : Runs text.toList items)
      (hsome : ∃ c ∈ text.toList, c ≠ ';') : Denotes text (.stringArray items)

/-- What is reported on a constant if a text denotes no value of a kind. -/
inductive Complaint (name text : String) : Kind → Diagnostic → Prop
  | bool : Complaint name text .bool (.notBool name text)
  | int {reason : Decimal.Fault} (h : Decimal.read 32 (Text.trim text).toList = .error reason) :
      Complaint name text .int (.notInt name text (describeIntFault reason))
  | items : Complaint name text .stringArray (.emptyArray name text)

/-- There is one complaint of a kind. -/
theorem Complaint.eq {name text : String} {k : Kind} {error other : Diagnostic}
    (h : Complaint name text k error) (h' : Complaint name text k other) : error = other := by
  cases h with
  | bool =>
    cases h'
    rfl
  | int hreason =>
    cases h' with
    | int hother =>
      rw [hreason] at hother
      rw [Except.error.inj hother]
  | items =>
    cases h'
    rfl

/-! ## Lists -/

/-- The stretches of a text are what its pieces leave. -/
theorem eq_pieces_of_runs {cs : List Char} {items : List String} (h : Runs cs items) :
    ((Text.pieces ';' cs).filter fun piece => !piece.isEmpty).map String.ofList = items := by
  induction h with
  | nil => rfl
  | skip _ ih => simpa [Text.pieces] using ih
  | last hne hfree => simp [Text.pieces_of_notMem hfree, hne]
  | item hne hfree _ ih => simpa [Text.pieces_append_cons hfree, hne] using ih

/-- Pieces with semicolons between them leave their stretches. -/
theorem runs_intercalate {ps : List (List Char)} (hne : ps ≠ []) (h : ∀ piece ∈ ps, ';' ∉ piece) :
    Runs ([';'].intercalate ps)
      ((ps.filter fun piece => !piece.isEmpty).map String.ofList) := by
  induction ps with
  | nil => exact absurd rfl hne
  | cons piece more ih =>
    have hfree : ';' ∉ (String.ofList piece).toList := by
      rw [String.toList_ofList]
      exact h piece List.mem_cons_self
    cases more with
    | nil =>
      rw [List.intercalate_singleton]
      cases piece with
      | nil => exact .nil
      | cons c rest =>
        have hrun := Runs.last (by simp) hfree
        rwa [String.toList_ofList] at hrun
    | cons next more =>
      have hrest := ih (List.cons_ne_nil _ _) fun p hp => h p (List.mem_cons_of_mem _ hp)
      rw [List.intercalate_cons_cons, List.append_assoc, List.singleton_append]
      cases piece with
      | nil => exact .skip hrest
      | cons c rest =>
        have hrun := Runs.item (by simp) hfree hrest
        rwa [String.toList_ofList] at hrun

/-- A text has its stretches, which are what its pieces leave. -/
theorem runs_pieces (cs : List Char) :
    Runs cs (((Text.pieces ';' cs).filter fun piece => !piece.isEmpty).map String.ofList) := by
  have hruns := runs_intercalate (Text.pieces_ne_nil ';' cs) fun _ => Text.notMem_of_mem_pieces
  rwa [Text.intercalate_pieces] at hruns

/-- A text has a stretch exactly if it holds a character other than a semicolon. -/
theorem Runs.ne_nil_iff {cs : List Char} {items : List String} (h : Runs cs items) :
    items ≠ [] ↔ ∃ c ∈ cs, c ≠ ';' := by
  have hfirst {item : String} (hne : item ≠ "") (hfree : ';' ∉ item.toList) :
      ∃ c ∈ item.toList, c ≠ ';' := by
    obtain ⟨c, hc⟩ := List.exists_mem_of_ne_nil item.toList (by simpa using hne)
    exact ⟨c, hc, fun heq => hfree (heq ▸ hc)⟩
  induction h with
  | nil => simp
  | skip _ ih => simpa using ih
  | last hne hfree => exact iff_of_true (List.cons_ne_nil _ _) (hfirst hne hfree)
  | item hne hfree _ _ =>
    obtain ⟨c, hc, hother⟩ := hfirst hne hfree
    exact iff_of_true (List.cons_ne_nil _ _) ⟨c, List.mem_append_left _ hc, hother⟩

/-- **A list is read as the stretches of its text**, if there is one. -/
theorem readItems_eq_ok_iff {text : String} {items : List String} :
    readItems text = .ok items ↔ Runs text.toList items ∧ ∃ c ∈ text.toList, c ≠ ';' := by
  have hruns := runs_pieces text.toList
  have hsome := hruns.ne_nil_iff
  rw [readItems]
  constructor
  · intro h
    split at h
    next => cases h
    next hpieces =>
      obtain rfl := Except.ok.inj h
      exact ⟨hruns, hsome.1 (by simpa using hpieces)⟩
  · rintro ⟨hitems, hother⟩
    have hpieces := hsome.2 hother
    rw [if_neg (by simpa using hpieces), eq_pieces_of_runs hitems]

/-- A list that is not read consists of semicolons. -/
theorem readItems_eq_error {text : String} {fault : Fault} (h : readItems text = .error fault) :
    fault = .emptyArray text := by
  rw [readItems] at h
  split at h
  next => exact (Except.error.inj h).symm
  next => cases h

/-! ## Numerals and words -/

/-- A digit is not blank. -/
theorem isBlank_of_isDigit {c : Char} (h : c.isDigit = true) : Text.isBlank c = false := by
  obtain ⟨hlow, hhigh⟩ := Char.isDigit_iff_toNat.1 h
  change 0x30 ≤ c.toNat at hlow
  change c.toNat ≤ 0x39 at hhigh
  exact Text.isBlank_eq_false (by omega) (by omega)

/-- A numeral holds no blanks. -/
theorem isBlank_of_numeral {cs : List Char} {n : Int} (h : Decimal.Numeral cs n) :
    ∀ c ∈ cs, Text.isBlank c = false := by
  obtain ⟨digits, hdigits, hcs⟩ := h.exists_digits
  have hplain (c : Char) (hc : c ∈ digits) : Text.isBlank c = false :=
    isBlank_of_isDigit (hdigits.2 c hc)
  have hplus : Text.isBlank '+' = false := by decide
  have hminus : Text.isBlank '-' = false := by decide
  rcases hcs with rfl | rfl | rfl
  · exact hplain
  · exact List.forall_mem_cons.2 ⟨hplus, hplain⟩
  · exact List.forall_mem_cons.2 ⟨hminus, hplain⟩

/-- A numeral with blanks around it trims to the numeral. -/
theorem trim_of_numeral {word text : String} {n : Int} (h : Text.Padded word text)
    (hword : Decimal.Numeral word.toList n) : Text.trim text = word :=
  (Text.padded_iff (isBlank_of_numeral hword)).1 h

/-- A word in any letter case with blanks around it trims to that word. -/
theorem trim_of_recased {word text other : String} (h : Text.Padded word text)
    (hword : Text.Recased word other) (hother : other.toList.any Text.isBlank = false) :
    Text.trim text = word := by
  have hblank (c : Char) (hc : c ∈ other.toList) : Text.isBlank c = false :=
    Bool.eq_false_iff.2 (List.any_eq_false.1 hother c hc)
  exact (Text.padded_iff (Text.isBlank_of_recased hword hblank)).1 h

/-- A numeral does not have the letters of a word without digits. -/
theorem sameLetters_of_numeral {word other : String} {n : Int}
    (hword : Decimal.Numeral word.toList n)
    (hother : (other.toList.map Char.toLower).any Char.isDigit = false) :
    Text.sameLetters word other = false := by
  obtain ⟨digits, hdigits, hcs⟩ := hword.exists_digits
  obtain ⟨c, hc⟩ := List.exists_mem_of_ne_nil digits hdigits.1
  have hmem : c ∈ word.toList := by
    rcases hcs with h | h | h
    · rw [h]
      exact hc
    · rw [h]
      exact List.mem_cons_of_mem _ hc
    · rw [h]
      exact List.mem_cons_of_mem _ hc
  have hdigit := hdigits.2 c hc
  have hlower : c.toLower = c := by
    obtain ⟨-, hhigh⟩ := Char.isDigit_iff_toNat.1 hdigit
    change c.toNat ≤ 0x39 at hhigh
    rw [← Char.toNat_inj, Text.toNat_toLower, if_neg (by omega)]
  rw [← Bool.not_eq_true, Text.sameLetters_iff]
  intro hsame
  have hlowered : c ∈ other.toList.map Char.toLower := by
    rw [← hsame, ← hlower]
    exact List.mem_map_of_mem hmem
  exact List.any_eq_false.1 hother c hlowered hdigit

/-! ## Truth values -/

/-- **The words for the truth values** are read in any letter case. -/
theorem readBool_eq_word_iff {text : String} {b : Bool} :
    readBool text = .ok ⟨b, false⟩ ↔
      Text.Recased (Text.trim text) (if b then "true" else "false") := by
  rw [Text.recased_iff]
  constructor
  · intro h
    unfold readBool at h
    dsimp only at h
    split at h
    next hyes =>
      obtain ⟨rfl, -⟩ := Truth.mk.inj (Except.ok.inj h)
      exact hyes
    next =>
      split at h
      next hno =>
        obtain ⟨rfl, -⟩ := Truth.mk.inj (Except.ok.inj h)
        exact hno
      next => split at h <;> cases h
  · intro hword
    cases b with
    | true =>
      rw [if_pos rfl] at hword
      simp only [readBool, hword, if_true]
    | false =>
      rw [if_neg Bool.false_ne_true] at hword
      have hyes : Text.sameLetters (Text.trim text) "true" = false := by
        rw [← Bool.not_eq_true, Text.sameLetters_iff, Text.sameLetters_iff.1 hword]
        decide
      simp only [readBool, hyes, hword, Bool.false_eq_true, if_false, if_true]

/-- **Numerals are truth values**: a number of 64 bits is true unless it is zero. -/
theorem readBool_eq_numeric_iff {text : String} {b : Bool} :
    readBool text = .ok ⟨b, true⟩ ↔
      ∃ n, Decimal.Numeral (Text.trim text).toList n ∧ Decimal.Fits 64 n ∧
        b = decide (n ≠ 0) := by
  constructor
  · intro h
    unfold readBool at h
    dsimp only at h
    split at h
    next => cases h
    next =>
      split at h
      next => cases h
      next =>
        split at h
        next n hn =>
          obtain ⟨rfl, -⟩ := Truth.mk.inj (Except.ok.inj h)
          obtain ⟨hnumeral, hfits⟩ := Decimal.read_eq_ok_iff.1 hn
          exact ⟨n, hnumeral, hfits, rfl⟩
        next => cases h
  · rintro ⟨n, hnumeral, hfits, rfl⟩
    have hyes : Text.sameLetters (Text.trim text) "true" = false :=
      sameLetters_of_numeral hnumeral (by decide)
    have hno : Text.sameLetters (Text.trim text) "false" = false :=
      sameLetters_of_numeral hnumeral (by decide)
    have hread := Decimal.read_eq_ok_iff.2 ⟨hnumeral, hfits⟩
    simp only [readBool, hyes, hno, hread, Bool.false_eq_true, if_false]

/-- What is read as a truth value is one of the two words or a numeral. -/
theorem denotes_of_readBool {text : String} {truth : Truth} (h : readBool text = .ok truth) :
    Denotes text (.bool truth.value) := by
  have hpadded := Text.padded_trim text
  obtain ⟨b, numeric⟩ := truth
  cases numeric with
  | false =>
    have hword := readBool_eq_word_iff.1 h
    cases b with
    | true => exact .yes hpadded hword
    | false => exact .no hpadded hword
  | true =>
    obtain ⟨n, hnumeral, hfits, rfl⟩ := readBool_eq_numeric_iff.1 h
    exact .number hpadded hnumeral hfits

/-- **What is read as a truth value** are the two words in any letter case and the numerals of 64
bits, with blanks around them. -/
theorem readBool_eq_ok_iff {text : String} {b : Bool} :
    (∃ truth, readBool text = .ok truth ∧ truth.value = b) ↔ Denotes text (.bool b) := by
  constructor
  · rintro ⟨truth, h, rfl⟩
    exact denotes_of_readBool h
  · intro h
    cases h with
    | yes hpadded hword =>
      rw [← trim_of_recased hpadded hword (by decide)] at hword
      exact ⟨⟨true, false⟩, readBool_eq_word_iff.2 hword, rfl⟩
    | no hpadded hword =>
      rw [← trim_of_recased hpadded hword (by decide)] at hword
      exact ⟨⟨false, false⟩, readBool_eq_word_iff.2 hword, rfl⟩
    | number hpadded hword hfits =>
      rw [← trim_of_numeral hpadded hword] at hword
      exact ⟨⟨_, true⟩, readBool_eq_numeric_iff.2 ⟨_, hword, hfits, rfl⟩, rfl⟩

/-- A truth value that is not read is reported as such. -/
theorem readBool_eq_error {text : String} {fault : Fault} (h : readBool text = .error fault) :
    fault = .notBool text := by
  unfold readBool at h
  dsimp only at h
  split at h
  next => cases h
  next =>
    split at h
    next => cases h
    next =>
      split at h
      next => cases h
      next => exact (Except.error.inj h).symm

/-! ## Integers -/

/-- A number of 32 bits reads back from its decimal form, so that it is always accepted. -/
theorem readInt_of_read {text : String} {n : Int}
    (h : Decimal.read 32 (Text.trim text).toList = .ok n) : readInt text = .ok (Int32.ofInt n) := by
  obtain ⟨-, hlow, hhigh⟩ := Decimal.read_eq_ok_iff.1 h
  have hback : Decimal.read 32 (toString n).toList = .ok n := Decimal.read_toString rfl hlow hhigh
  simp only [readInt, h, hback, if_true]

/-- **What is read as an integer** are the numerals of 32 bits, with blanks around them. -/
theorem readInt_eq_ok_iff {text : String} {number : Int32} :
    readInt text = .ok number ↔ Denotes text (.int number) := by
  constructor
  · intro h
    cases hread : Decimal.read 32 (Text.trim text).toList with
    | error reason =>
      simp only [readInt, hread] at h
      cases h
    | ok n =>
      rw [readInt_of_read hread] at h
      obtain rfl := Except.ok.inj h
      obtain ⟨hnumeral, hlow, hhigh⟩ := Decimal.read_eq_ok_iff.1 hread
      refine .int (Text.padded_trim text) ?_
      rwa [Int32.toInt_ofInt_of_le hlow hhigh]
  · intro h
    cases h with
    | int hpadded hword =>
      have htrim := trim_of_numeral hpadded hword
      have hfits : Decimal.Fits 32 number.toInt := ⟨number.le_toInt, number.toInt_lt⟩
      have hread : Decimal.read 32 (Text.trim text).toList = .ok number.toInt := by
        rw [htrim]
        exact Decimal.read_eq_ok_iff.2 ⟨hword, hfits⟩
      rw [readInt_of_read hread, Int32.ofInt_toInt]

/-- An integer that is not read is reported for the same cause as its numeral. -/
theorem readInt_eq_error {text : String} {fault : Fault} (h : readInt text = .error fault) :
    ∃ reason, Decimal.read 32 (Text.trim text).toList = .error reason ∧
      fault = .notInt text reason := by
  cases hread : Decimal.read 32 (Text.trim text).toList with
  | error reason =>
    simp only [readInt, hread] at h
    exact ⟨reason, rfl, (Except.error.inj h).symm⟩
  | ok n =>
    rw [readInt_of_read hread] at h
    cases h

/-! ## Reading by kind -/

/-- What is read by a kind is denoted by the text. -/
theorem denotes_of_read {name text : String} {k : Kind} {v : Value} {remarks : List Diagnostic}
    (h : read name text k = .ok (v, remarks)) : Denotes text v ∧ v.kind = k := by
  cases k with
  | string =>
    obtain ⟨rfl, -⟩ := Prod.mk.inj (Except.ok.inj h)
    exact ⟨.string, rfl⟩
  | bool =>
    rw [read, Except.map_eq_ok_iff] at h
    obtain ⟨truth, htruth, hv⟩ := h
    obtain ⟨rfl, -⟩ := Prod.mk.inj hv
    exact ⟨denotes_of_readBool htruth, rfl⟩
  | int =>
    rw [read, Except.map_eq_ok_iff] at h
    obtain ⟨number, hnumber, hv⟩ := h
    obtain ⟨rfl, -⟩ := Prod.mk.inj hv
    exact ⟨readInt_eq_ok_iff.1 hnumber, rfl⟩
  | stringArray =>
    rw [read, Except.map_eq_ok_iff] at h
    obtain ⟨items, hitems, hv⟩ := h
    obtain ⟨rfl, -⟩ := Prod.mk.inj hv
    obtain ⟨hruns, hsome⟩ := readItems_eq_ok_iff.1 hitems
    exact ⟨.items hruns hsome, rfl⟩

/-- What a text denotes is read by its kind. -/
theorem exists_read_of_denotes {text : String} {v : Value} (h : Denotes text v) (name : String) :
    ∃ remarks, read name text v.kind = .ok (v, remarks) := by
  cases v with
  | string other =>
    cases h with
    | string => exact ⟨[], rfl⟩
  | bool b =>
    obtain ⟨truth, htruth, rfl⟩ := readBool_eq_ok_iff.2 h
    refine ⟨if truth.numeric then [.numericBool name text truth.value] else [], ?_⟩
    simp only [read, kind, htruth, Except.map]
  | int number => exact ⟨[], by simp only [read, kind, readInt_eq_ok_iff.2 h, Except.map]⟩
  | stringArray items =>
    cases h with
    | items hruns hsome =>
      have hitems := readItems_eq_ok_iff.2 ⟨hruns, hsome⟩
      exact ⟨[], by simp only [read, kind, hitems, Except.map]⟩

/-- **What is read by a kind** is the value of that kind that the text denotes. -/
theorem read_eq_ok_iff {name text : String} {k : Kind} {v : Value} :
    (∃ remarks, read name text k = .ok (v, remarks)) ↔ Denotes text v ∧ v.kind = k := by
  constructor
  · rintro ⟨remarks, h⟩
    exact denotes_of_read h
  · rintro ⟨h, rfl⟩
    exact exists_read_of_denotes h name

/-- **What is reported if nothing is read** is the complaint of the kind. -/
theorem complaint_of_read {name text : String} {k : Kind} {fault : Fault}
    (h : read name text k = .error fault) :
    Complaint name text k (fault.diagnostic name text) := by
  cases k with
  | string => cases h
  | bool =>
    rw [read, Except.map_eq_error_iff] at h
    obtain rfl := readBool_eq_error h
    exact .bool
  | int =>
    rw [read, Except.map_eq_error_iff] at h
    obtain ⟨reason, hreason, rfl⟩ := readInt_eq_error h
    exact .int hreason
  | stringArray =>
    rw [read, Except.map_eq_error_iff] at h
    obtain rfl := readItems_eq_error h
    exact .items

end BuildConst.Value
