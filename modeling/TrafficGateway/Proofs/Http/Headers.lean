import TrafficGateway.Http.Headers

/-!
# The values of a name

What an operation on headers does is said name by name: `insert` leaves a single value of its name and
everything of the others, `remove` leaves nothing of its name and everything of the others. A value that
can be read as text is sent as it was read.

## Main statements

* `HeaderValue.ofText_append`, `HeaderValue.ofText_of_text?`: the bytes that a text is sent as.
* `Headers.filter_remove_of_ne`, `Headers.filter_insert_of_ne`, `Headers.getAll_insert`: the values
  after a change.
-/

namespace TrafficGateway

/-! ## Texts -/

theorem byteArray_toList_loop (bytes : ByteArray) (i : Nat) (front : List UInt8) :
    ByteArray.toList.loop bytes i front = front.reverse ++ bytes.data.toList.drop i := by
  fun_induction ByteArray.toList.loop bytes i front with
  | case1 i front hlt ih =>
    have hlen : i < bytes.data.toList.length := by simpa using hlt
    rw [ih, List.drop_eq_getElem_cons hlen]
    simp [ByteArray.get!, hlt]
  | case2 i front hge =>
    rw [List.drop_eq_nil_of_le (by simpa using Nat.le_of_not_lt hge)]
    simp

theorem byteArray_toList (bytes : ByteArray) : bytes.toList = bytes.data.toList := by
  rw [ByteArray.toList, byteArray_toList_loop]
  simp

/-- A text in lower case is its own stored form. -/
theorem asciiLower_eq_self {s : String} (h : s.toList.map Char.toLower = s.toList) :
    asciiLower s = s := by
  rw [← String.toList_inj, asciiLower, String.toList_map, h]

/-- A text is put in lower case once. -/
theorem asciiLower_asciiLower (s : String) : asciiLower (asciiLower s) = asciiLower s := by
  refine asciiLower_eq_self ?_
  have hchar (c : Char) : c.toLower.toLower = c.toLower := by
    unfold Char.toLower
    grind
  rw [asciiLower, String.toList_map, List.map_map]
  exact List.map_congr_left fun c _ => hchar c

theorem length_asciiLower (s : String) : (asciiLower s).length = s.length := by
  rw [asciiLower, ← String.length_toList, String.toList_map, List.length_map, String.length_toList]

/-- The letters that change have one byte in either case. -/
theorem utf8ByteSize_asciiLower (s : String) : (asciiLower s).utf8ByteSize = s.utf8ByteSize := by
  have hchar (c : Char) : (String.utf8EncodeChar c.toLower).length =
      (String.utf8EncodeChar c).length := by
    rw [String.length_utf8EncodeChar, String.length_utf8EncodeChar]
    unfold Char.toLower Char.utf8Size
    grind
  have hsize (s : String) : s.utf8ByteSize =
      (s.toList.map fun c => (String.utf8EncodeChar c).length).sum := by
    rw [← String.size_toByteArray, ← String.utf8Encode_toList]
    simp [List.utf8Encode, List.length_flatMap]
  rw [hsize, hsize, asciiLower, String.toList_map, List.map_map]
  exact congrArg List.sum (List.map_congr_left fun c _ => hchar c)

/-- Case does not matter in the name of a header. -/
theorem Headers.get?_asciiLower (h : Headers) (name : String) :
    h.get? (asciiLower name) = h.get? name := by
  rw [Headers.get?, Headers.get?, asciiLower_asciiLower]

namespace HeaderValue

/-- A text is sent as the bytes of its characters. -/
theorem ofText_eq (s : String) : ofText s = s.toList.flatMap String.utf8EncodeChar := by
  rw [ofText, byteArray_toList, String.toUTF8_eq_toByteArray, ← String.utf8Encode_toList,
    List.utf8Encode, List.toList_data_toByteArray]

theorem ofText_append (s t : String) : ofText (s ++ t) = ofText s ++ ofText t := by
  rw [ofText_eq, ofText_eq, ofText_eq, String.toList_append, List.flatMap_append]

/-- The character of an ASCII byte is sent as that byte. -/
theorem utf8EncodeChar_ofNat {b : UInt8} (h : b.toNat < 128) :
    String.utf8EncodeChar (Char.ofNat b.toNat) = [b] := by
  have hall : ∀ n < 128, String.utf8EncodeChar (Char.ofNat n) = [UInt8.ofNat n] := by decide
  rw [hall _ h, UInt8.ofNat_toNat]

theorem lt_of_isText {v : HeaderValue} (h : isText v) : ∀ b ∈ v, b.toNat < 128 := by
  intro b hb
  have hbyte := List.all_eq_true.1 h b hb
  simp only [Bool.or_eq_true, Bool.and_eq_true, decide_eq_true_eq, beq_iff_eq] at hbyte
  rcases hbyte with ⟨-, hlt⟩ | rfl
  · exact Nat.lt_trans (UInt8.lt_iff_toNat_lt.1 hlt) (by decide)
  · decide

/-- What was read as text is sent as it was. -/
theorem ofText_of_text? {v : HeaderValue} {s : String} (h : text? v = some s) : ofText s = v := by
  unfold text? at h
  split at h
  · next hv =>
    obtain rfl := Option.some.inj h
    have hbytes : v.map (fun b => String.utf8EncodeChar (Char.ofNat b.toNat)) = v.map fun b => [b] :=
      List.map_congr_left fun b hb => utf8EncodeChar_ofNat (lt_of_isText hv b hb)
    rw [ofText_eq, String.toList_ofList, List.flatMap_map, List.flatMap_def, hbytes,
      ← List.flatMap_def, List.flatMap_singleton']
  · cases h

theorem text?_isSome (v : HeaderValue) : (text? v).isSome = isText v := by
  unfold text?
  split
  · next hv => rw [hv]; rfl
  · next hv => simpa using hv

end HeaderValue

namespace Headers

variable {h : Headers} {name other : String} {value : HeaderValue}

/-! ## Changes -/

/-- The first value of a name is the first of its values. -/
theorem get?_eq_head?_getAll : h.get? name = (h.getAll name).head? := by
  rw [get?, getAll, List.head?_map, List.head?_filter]

/-- Headers with the same entries of a name have the same values of it. -/
theorem getAll_congr {h' : Headers}
    (hsame : h'.filter (·.1 == asciiLower name) = h.filter (·.1 == asciiLower name)) :
    h'.getAll name = h.getAll name :=
  congrArg (List.map Prod.snd) hsame

theorem filter_remove_of_ne (hne : other ≠ asciiLower name) :
    (h.remove name).filter (·.1 == other) = h.filter (·.1 == other) := by
  rw [remove, List.filter_filter]
  refine List.filter_congr fun e _ => ?_
  by_cases he : e.1 = other
  · simp [he, hne]
  · simp [he]

theorem filter_remove_self : (h.remove name).filter (·.1 == asciiLower name) = [] := by
  rw [remove, List.filter_filter, List.filter_eq_nil_iff]
  intro e _
  simp

theorem filter_insert_of_ne (hne : other ≠ asciiLower name) :
    (h.insert name value).filter (·.1 == other) = h.filter (·.1 == other) := by
  rw [insert, append, List.filter_append, filter_remove_of_ne hne]
  simp [hne.symm]

theorem getAll_insert : (h.insert name value).getAll name = [value] := by
  rw [getAll, insert, append, List.filter_append, filter_remove_self]
  simp

end Headers

end TrafficGateway
