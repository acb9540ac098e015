import JobChain.Proofs.Json.Scalars
import JobChain.Proofs.Table

/-!
# JSON text that is written and read

What `write` writes `read` reads back, if the value has no floating-point numbers and no object in
it repeats a name.  The text of a value may be followed by anything that ends it: the reader of
numbers stops there, and everything else is closed by a mark of its own.

* `Json.IsPlain`: the values in question, of any size and depth; it can be decided.
* `IsReadBack`, `isReadBack_of_isPlain`: a value in front of what ends it is read back.
* `readText_chars`, `read_write`: and so is a value on its own.
* `beginsAscii_chars_object`: the text of an object gives its encoding away.
-/

namespace JobChain.Json

/-! ## Plain values -/

/-- A value without floating-point numbers, in which no object repeats a name. -/
inductive IsPlain : Json → Prop
  | null : IsPlain null
  | bool (b : Bool) : IsPlain (bool b)
  | int (n : Int) : IsPlain (int n)
  | string (s : String) : IsPlain (string s)
  | array {items : List Json} (hitems : ∀ item ∈ items, IsPlain item) : IsPlain (array items)
  | object {members : Table Json} (hnames : members.names.Nodup)
    (hmembers : ∀ m ∈ members, IsPlain m.2) : IsPlain (object members)

mutual

/-- Whether a value is plain. -/
def isPlain : Json → Bool
  | null | bool _ | int _ | string _ => true
  | float _ => false
  | array items => arePlain items
  | object members => decide (Table.names members).Nodup && membersArePlain members

/-- Whether all items are plain. -/
def arePlain : List Json → Bool
  | [] => true
  | item :: items => isPlain item && arePlain items

/-- Whether all values of members are plain. -/
def membersArePlain : List (String × Json) → Bool
  | [] => true
  | (_, value) :: members => isPlain value && membersArePlain members

end

theorem arePlain_iff {items : List Json} :
    arePlain items = true ↔ ∀ item ∈ items, isPlain item = true := by
  induction items with
  | nil => simp [arePlain]
  | cons item items ih => simp [arePlain, ih]

theorem membersArePlain_iff {members : List (String × Json)} :
    membersArePlain members = true ↔ ∀ m ∈ members, isPlain m.2 = true := by
  induction members with
  | nil => simp [membersArePlain]
  | cons m members ih => simp [membersArePlain, ih]

theorem isPlain_of_eq_true : ∀ v : Json, isPlain v = true → IsPlain v
  | null, _ => .null
  | bool b, _ => .bool b
  | int n, _ => .int n
  | string s, _ => .string s
  | array items, h => by
    rw [isPlain, arePlain_iff] at h
    exact .array fun item hitem => isPlain_of_eq_true item (h item hitem)
  | object members, h => by
    rw [isPlain, Bool.and_eq_true, decide_eq_true_iff, membersArePlain_iff] at h
    exact .object h.1 fun m hm => isPlain_of_eq_true m.2 (h.2 m hm)
termination_by v => sizeOf v
decreasing_by
  · have hsize := List.sizeOf_lt_of_mem hitem
    simp only [array.sizeOf_spec]
    omega
  · have hsize := List.sizeOf_lt_of_mem hm
    have hvalue : sizeOf m.2 < sizeOf m := by
      obtain ⟨name, value⟩ := m
      simp
    simp only [object.sizeOf_spec]
    omega

theorem isPlain_iff {v : Json} : isPlain v = true ↔ IsPlain v := by
  refine ⟨isPlain_of_eq_true v, fun h => ?_⟩
  induction h with
  | array _ ih => exact arePlain_iff.mpr ih
  | object hnames _ ih =>
    rw [isPlain, Bool.and_eq_true, decide_eq_true_iff]
    exact ⟨hnames, membersArePlain_iff.mpr ih⟩
  | _ => rfl

instance : DecidablePred IsPlain := fun _ => decidable_of_iff _ isPlain_iff

/-! ## Where texts begin -/

/-- A character that the text of a value begins with: visible, and no mark that closes an array. -/
structure IsFirst (c : Char) : Prop where
  gt : 0x20 < c.toNat
  lt : c.toNat < 0x80
  ne : c ≠ ']'

theorem isFirst_of_isDigit {c : Char} (h : isDigit c = true) : IsFirst c := by
  have hrange : 48 ≤ c.toNat ∧ c.toNat ≤ 57 := by
    simpa [isDigit, Char.le_def, UInt32.le_iff_toNat_le] using h
  refine ⟨by omega, by omega, ?_⟩
  rintro rfl
  cases h

/-- The text of a plain value begins so. -/
theorem IsPlain.exists_chars {v : Json} (h : v.IsPlain) :
    ∃ c cs, chars v = c :: cs ∧ IsFirst c := by
  cases h with
  | null => exact ⟨'n', _, rfl, by decide, by decide, by decide⟩
  | bool b => cases b with
    | true => exact ⟨'t', _, rfl, by decide, by decide, by decide⟩
    | false => exact ⟨'f', _, rfl, by decide, by decide, by decide⟩
  | int n =>
    obtain ⟨c, cs, htext, rfl | hc⟩ := exists_toString_eq_cons n
    · exact ⟨'-', cs, htext, by decide, by decide, by decide⟩
    · exact ⟨c, cs, htext, isFirst_of_isDigit hc⟩
  | string s => exact ⟨'"', _, rfl, by decide, by decide, by decide⟩
  | array hitems => exact ⟨'[', _, rfl, by decide, by decide, by decide⟩
  | object hnames hmembers => exact ⟨'{', _, rfl, by decide, by decide, by decide⟩

theorem skipSpace_cons {c : Char} (h : 0x20 < c.toNat) (s : List Char) :
    skipSpace (c :: s) = c :: s := by
  have hspace : isSpace c = false := by
    simp only [isSpace, Bool.or_eq_false_iff, beq_eq_false_iff_ne]
    refine ⟨⟨⟨?_, ?_⟩, ?_⟩, ?_⟩ <;> rintro rfl <;> exact absurd h (by decide)
  rw [skipSpace, List.dropWhile_cons, hspace]
  rfl

/-! ## Values that are read back -/

/-- A value is read back from its text, within twice its length, in front of what ends it. -/
def IsReadBack (v : Json) : Prop :=
  ∀ depth rest, 2 * (chars v).length ≤ depth → IsEnd rest →
    readValue depth (chars v ++ rest) = .ok (v, rest)

/-- What begins with none of the marks of strings, arrays and objects is a word or a number. -/
theorem readValue_of_ne {c : Char} (hquote : c ≠ '"') (hbracket : c ≠ '[') (hbrace : c ≠ '{')
    (depth : Nat) (s : List Char) : readValue (depth + 1) (c :: s) = readAtom (c :: s) := by
  rw [readValue] <;> simp [hquote, hbracket, hbrace]

/-- The text of a value has no blank space in front. -/
theorem skipSpace_chars {v : Json} (h : v.IsPlain) (s : List Char) :
    skipSpace (chars v ++ s) = chars v ++ s := by
  obtain ⟨c, cs, hchars, hc⟩ := h.exists_chars
  rw [hchars]
  exact skipSpace_cons hc.gt _

theorem skipSpace_blank (s : List Char) : skipSpace (' ' :: s) = skipSpace s := rfl

/-! ## Items and members -/

/-- The text of several items begins with that of the first. -/
theorem exists_itemChars_cons (item : Json) (items : List Json) :
    ∃ cs, itemChars (item :: items) = chars item ++ cs := by
  cases items with
  | nil => exact ⟨[], (List.append_nil _).symm⟩
  | cons next items => exact ⟨_, rfl⟩

/-- Items are read back up to the bracket that closes them. -/
theorem readItems_itemChars {items : List Json} (hplain : ∀ item ∈ items, item.IsPlain)
    (hitems : ∀ item ∈ items, item.IsReadBack) (hne : items ≠ []) (depth : Nat)
    (hdepth : 2 * (itemChars items).length < depth) (rest : List Char) :
    readItems depth (itemChars items ++ ']' :: rest) = .ok (items, rest) := by
  induction items generalizing depth with
  | nil => exact absurd rfl hne
  | cons item items ih =>
    obtain ⟨hitem, hitems⟩ := List.forall_mem_cons.mp hitems
    obtain ⟨depth, rfl⟩ := Nat.exists_eq_add_one_of_ne_zero (Nat.ne_zero_of_lt hdepth)
    cases items with
    | nil =>
      -- the bracket ends the text of the last item, and a comma that of any other
      rw [itemChars] at hdepth ⊢
      rw [readItems, hitem depth _ (by omega) (.bracket rest)]
      simp only [skipSpace_cons (c := ']') (by decide)]
    | cons next items =>
      have hrest := ih (fun v hv => hplain v (.tail _ hv)) hitems (by simp) depth
      have hnext : next.IsPlain := hplain next (.tail _ (.head _))
      obtain ⟨cs, hcs⟩ := exists_itemChars_cons next items
      have hskip : skipSpace (' ' :: (itemChars (next :: items) ++ ']' :: rest)) =
          itemChars (next :: items) ++ ']' :: rest := by
        rw [skipSpace_blank, hcs, List.append_assoc, skipSpace_chars hnext]
      have hlength : (itemChars (item :: next :: items)).length =
          (chars item).length + 2 + (itemChars (next :: items)).length := by
        simp only [itemChars, List.length_append, List.length_cons]
        omega
      have hform : itemChars (item :: next :: items) ++ ']' :: rest =
          chars item ++ ',' :: ' ' :: (itemChars (next :: items) ++ ']' :: rest) := by
        simp only [itemChars, List.append_assoc, List.cons_append]
      rw [hform, readItems, hitem depth _ (by omega) (.comma _)]
      simp only [skipSpace_cons (c := ',') (by decide), hskip, hrest (by omega)]

section Members

variable {name : String} {value : Json} {members : List (String × Json)} {depth : Nat}
  {rest : List Char}

theorem stringChars_append (name : String) (s : List Char) :
    stringChars name ++ s = '"' :: (name.toList.flatMap escapeChar ++ '"' :: s) := by
  simp [stringChars]

/-- The text of members begins with a quotation mark. -/
theorem exists_memberChars_cons (m : String × Json) (members : List (String × Json)) :
    ∃ cs, memberChars (m :: members) = '"' :: cs := by
  obtain ⟨name, value⟩ := m
  cases members with
  | nil => exact ⟨_, stringChars_append name _⟩
  | cons next members => exact ⟨_, (List.append_assoc ..).trans (stringChars_append name _)⟩

/-- The last member is read back. -/
theorem readMembers_last (hplain : value.IsPlain) (hvalue : value.IsReadBack)
    (hdepth : 2 * (chars value).length ≤ depth) (rest : List Char) :
    readMembers (depth + 1) (stringChars name ++ ':' :: ' ' :: (chars value ++ '}' :: rest)) =
      .ok ([(name, value)], rest) := by
  rw [stringChars_append, readMembers, readString_flatMap_escapeChar]
  simp only [skipSpace_cons (c := ':') (by decide), skipSpace_blank, skipSpace_chars hplain,
    hvalue depth _ hdepth (.brace rest), skipSpace_cons (c := '}') (by decide)]

/-- A member is read back in front of others that are. -/
theorem readMembers_next (hplain : value.IsPlain) (hvalue : value.IsReadBack)
    (hdepth : 2 * (chars value).length ≤ depth) {s : List Char}
    (hs : readMembers depth (skipSpace s) = .ok (members, rest)) :
    readMembers (depth + 1) (stringChars name ++ ':' :: ' ' :: (chars value ++ ',' :: s)) =
      .ok ((name, value) :: members, rest) := by
  rw [stringChars_append, readMembers, readString_flatMap_escapeChar]
  simp only [skipSpace_cons (c := ':') (by decide), skipSpace_blank, skipSpace_chars hplain,
    hvalue depth _ hdepth (.comma s), skipSpace_cons (c := ',') (by decide), hs]

/-- Members are read back up to the brace that closes them. -/
theorem readMembers_memberChars (hplain : ∀ m ∈ members, m.2.IsPlain)
    (hmembers : ∀ m ∈ members, m.2.IsReadBack) (hne : members ≠ []) (depth : Nat)
    (hdepth : 2 * (memberChars members).length < depth) (rest : List Char) :
    readMembers depth (memberChars members ++ '}' :: rest) = .ok (members, rest) := by
  induction members generalizing depth with
  | nil => exact absurd rfl hne
  | cons m members ih =>
    obtain ⟨name, value⟩ := m
    obtain ⟨hvalue, hmembers⟩ := List.forall_mem_cons.mp hmembers
    have hvaluePlain : value.IsPlain := hplain _ (.head _)
    obtain ⟨depth, rfl⟩ := Nat.exists_eq_add_one_of_ne_zero (Nat.ne_zero_of_lt hdepth)
    cases members with
    | nil =>
      have hform : memberChars [(name, value)] ++ '}' :: rest =
          stringChars name ++ ':' :: ' ' :: (chars value ++ '}' :: rest) := by
        simp only [memberChars, List.append_assoc, List.cons_append]
      have hlength : (chars value).length ≤ (memberChars [(name, value)]).length := by
        simp only [memberChars, List.length_append, List.length_cons]
        omega
      rw [hform]
      exact readMembers_last hvaluePlain hvalue (by omega) rest
    | cons next members =>
      have hrest := ih (fun v hv => hplain v (.tail _ hv)) hmembers (by simp) depth
      have hform : memberChars ((name, value) :: next :: members) ++ '}' :: rest =
          stringChars name ++ ':' :: ' ' :: (chars value ++
            ',' :: ' ' :: (memberChars (next :: members) ++ '}' :: rest)) := by
        simp only [memberChars, List.append_assoc, List.cons_append]
      have hlength : (chars value).length + 2 + (memberChars (next :: members)).length ≤
          (memberChars ((name, value) :: next :: members)).length := by
        simp only [memberChars, List.length_append, List.length_cons]
        omega
      rw [hform]
      refine readMembers_next hvaluePlain hvalue (by omega) ?_
      obtain ⟨cs, hcs⟩ := exists_memberChars_cons next members
      have hread := hrest (by omega)
      rw [hcs, List.cons_append] at hread ⊢
      rw [skipSpace_blank, skipSpace_cons (by decide)]
      exact hread

end Members

/-! ## Values -/

section Values

variable {v : Json}

/-- So is a value that is a word or a number, if it is read back as that. -/
theorem isReadBack_of_readAtom {c : Char} {cs : List Char} (hchars : chars v = c :: cs)
    (hfirst : c ≠ '"' ∧ c ≠ '[' ∧ c ≠ '{')
    (hatom : ∀ rest, IsEnd rest → readAtom (chars v ++ rest) = .ok (v, rest)) :
    v.IsReadBack := by
  intro depth rest hdepth hrest
  have hread := hatom rest hrest
  rw [hchars, List.length_cons] at hdepth
  obtain ⟨depth, rfl⟩ := Nat.exists_eq_add_of_le' (by omega : 1 ≤ depth)
  rw [hchars, List.cons_append] at hread ⊢
  rw [readValue_of_ne hfirst.1 hfirst.2.1 hfirst.2.2, hread]

theorem isReadBack_string (s : String) : IsReadBack (string s) := by
  intro depth rest hdepth _
  rw [chars, stringChars, List.cons_append, List.length_cons] at hdepth
  obtain ⟨depth, rfl⟩ := Nat.exists_eq_add_of_le' (by omega : 1 ≤ depth)
  rw [chars, stringChars_append, readValue, readString_flatMap_escapeChar]

theorem isReadBack_array {items : List Json} (hplain : ∀ item ∈ items, item.IsPlain)
    (hitems : ∀ item ∈ items, item.IsReadBack) : IsReadBack (array items) := by
  intro depth rest hdepth _
  have hlength : (chars (array items)).length = (itemChars items).length + 2 := by simp [chars]
  obtain ⟨depth, rfl⟩ := Nat.exists_eq_add_of_le' (by omega : 1 ≤ depth)
  have hform : chars (array items) ++ rest = '[' :: (itemChars items ++ ']' :: rest) := by
    simp [chars]
  rw [hform]
  cases items with
  | nil => rfl
  | cons item items =>
    have hread := readItems_itemChars hplain hitems (by simp) depth (by omega) rest
    obtain ⟨cs, hcs⟩ := exists_itemChars_cons item items
    obtain ⟨c, cs', hchars, hc⟩ := (hplain item (.head _)).exists_chars
    rw [hcs, hchars, List.cons_append, List.cons_append] at hread ⊢
    rw [readValue, skipSpace_cons hc.gt]
    -- the first item does not begin with the bracket that would close the array at once
    split
    next hclosed => exact absurd (List.cons.inj hclosed).1 hc.ne
    next => rw [hread]

theorem isReadBack_object {members : Table Json} (hnames : members.names.Nodup)
    (hplain : ∀ m ∈ members, m.2.IsPlain) (hmembers : ∀ m ∈ members, m.2.IsReadBack) :
    IsReadBack (object members) := by
  intro depth rest hdepth _
  have hlength : (chars (object members)).length = (memberChars members).length + 2 := by
    simp [chars]
  obtain ⟨depth, rfl⟩ := Nat.exists_eq_add_of_le' (by omega : 1 ≤ depth)
  have hform : chars (object members) ++ rest = '{' :: (memberChars members ++ '}' :: rest) := by
    simp [chars]
  rw [hform]
  cases members with
  | nil => rfl
  | cons m members =>
    have hread := readMembers_memberChars hplain hmembers (by simp) depth (by omega) rest
    obtain ⟨cs, hcs⟩ := exists_memberChars_cons m members
    rw [hcs, List.cons_append] at hread ⊢
    rw [readValue, skipSpace_cons (by decide)]
    simp [hread, Table.ofEntries_eq_self hnames]

/-- A plain value is read back. -/
theorem isReadBack_of_isPlain (h : v.IsPlain) : v.IsReadBack := by
  induction h with
  | null => exact isReadBack_of_readAtom rfl (by decide) fun rest _ => rfl
  | bool b =>
    cases b with
    | true => exact isReadBack_of_readAtom rfl (by decide) fun rest _ => rfl
    | false => exact isReadBack_of_readAtom rfl (by decide) fun rest _ => rfl
  | int n =>
    have hatom : ∀ rest, IsEnd rest → readAtom (chars (int n) ++ rest) = .ok (int n, rest) :=
      fun rest hrest => readAtom_toString n hrest
    obtain ⟨c, cs, htext, rfl | hc⟩ := exists_toString_eq_cons n
    · exact isReadBack_of_readAtom htext (by decide) hatom
    · have hfirst : c ≠ '"' ∧ c ≠ '[' ∧ c ≠ '{' := by
        refine ⟨?_, ?_, ?_⟩ <;> rintro rfl <;> cases hc
      exact isReadBack_of_readAtom htext hfirst hatom
  | string s => exact isReadBack_string s
  | array hitems ih => exact isReadBack_array hitems ih
  | object hnames hmembers ih => exact isReadBack_object hnames hmembers ih

end Values

/-! ## Whole texts -/

section Texts

variable {v : Json}

/-- The text of a plain value is that value. -/
theorem readText_chars (h : v.IsPlain) : readText (chars v) = .ok v := by
  have hread := isReadBack_of_isPlain h (2 * (chars v).length + 2) [] (by omega) .nil
  have hskip := skipSpace_chars h []
  rw [List.append_nil] at hread hskip
  rw [readText, hskip, hread]
  rfl

/-- What is written is read back. -/
theorem read_write (h : v.IsPlain) : read (write v) = .ok v := by
  obtain ⟨c, cs, hchars, hc⟩ := h.exists_chars
  have hmark : ¬(chars v).head? = some (Char.ofNat 0xFEFF) := by
    rw [hchars, List.head?_cons, Option.some_inj]
    rintro rfl
    exact absurd hc.lt (by decide)
  rw [read, write, String.toList_ofList, if_neg hmark, readText_chars h]
  rfl

/-- The text of an object begins with two characters of ASCII, even if the object is empty. -/
theorem beginsAscii_chars_object (members : List (String × Json)) :
    Text.BeginsAscii (chars (object members)) := by
  cases members with
  | nil => exact .intro [] (by decide) (by decide)
  | cons m members =>
    obtain ⟨cs, hcs⟩ := exists_memberChars_cons m members
    rw [chars, hcs]
    exact .intro _ (by decide) (by decide)

end Texts

end JobChain.Json
