/-!
# Text

Source files, lines, guard expressions and symbol names are all lists of characters. Stripping cuts
a text at line boundaries and glues the kept lines together again, and for that a list is the plain
representation: cutting is `takeWhile` and `drop`, gluing is append.

Positions that leave the library are counted in bytes of the UTF-8 form, because that is how files
are addressed. `byteSize` is the measure they come from, and `slice?` cuts a text at two byte
offsets. An offset inside a character cuts nothing, so `slice?` is partial.

## Main definitions

* `Text`: A list of characters.
* `byteSize`: The length of a text in UTF-8 bytes.
* `takeBytes?`, `dropBytes?`: The first bytes of a text, and what follows them.
* `slice?`: The part of a text between two byte offsets.
* `splitAt`: The pieces of a text between separators.
* `joinWith`: Pieces of text with a separator between each two.

## Theorems

* `byteSize_append`: Sizes add up over concatenation.
* `dropBytes?_byteSize`: Dropping the bytes of a first part leaves the second.
* `takeBytes?_byteSize`: Taking the bytes of a first part gives it back.
* `slice?_append`: Cutting out what stands between two parts.
* `exists_of_dropBytes?`, `exists_of_takeBytes?`, `exists_of_slice?`: Offsets that cut a text split it.
-/

namespace DirectiveStrip

/-- A text is the list of its characters. -/
abbrev Text := List Char

/-- The number of bytes of the UTF-8 form of a text. -/
def byteSize (text : Text) : Nat :=
  text.foldr (fun c size => c.utf8Size + size) 0

@[simp] theorem byteSize_nil : byteSize [] = 0 := rfl

@[simp] theorem byteSize_cons (c : Char) (text : Text) :
    byteSize (c :: text) = c.utf8Size + byteSize text := rfl

@[simp] theorem byteSize_append (first second : Text) :
    byteSize (first ++ second) = byteSize first + byteSize second := by
  induction first with
  | nil => simp
  | cons c rest ih => simp [ih, Nat.add_assoc]

theorem eq_nil_of_byteSize (text : Text) (h : byteSize text = 0) : text = [] := by
  cases text with
  | nil => rfl
  | cons c rest =>
      have := c.utf8Size_pos
      rw [byteSize_cons] at h
      omega

/-- What follows the first `n` bytes; none when `n` lies inside a character or past the end. -/
def dropBytes? : Nat → Text → Option Text
  | 0, text => some text
  | _ + 1, [] => none
  | n + 1, c :: text => if c.utf8Size ≤ n + 1 then dropBytes? (n + 1 - c.utf8Size) text else none

/-- The first `n` bytes; none when `n` lies inside a character or past the end. -/
def takeBytes? : Nat → Text → Option Text
  | 0, _ => some []
  | _ + 1, [] => none
  | n + 1, c :: text =>
    if c.utf8Size ≤ n + 1 then (takeBytes? (n + 1 - c.utf8Size) text).map (c :: ·) else none

/-- The part of a text from byte offset `start` up to byte offset `stop`; none unless both lie
    between characters of the text and `start` is not the later one. -/
def slice? (text : Text) (start stop : Nat) : Option Text :=
  if start ≤ stop then (dropBytes? start text).bind (takeBytes? (stop - start)) else none

theorem dropBytes?_byteSize (first second : Text) :
    dropBytes? (byteSize first) (first ++ second) = some second := by
  induction first with
  | nil => cases second <;> rfl
  | cons c rest ih =>
    -- a character is at least one byte long, so the offset is a successor
    obtain ⟨n, hn⟩ := Nat.exists_eq_add_one_of_ne_zero (Nat.ne_of_gt c.utf8Size_pos)
    rw [byteSize_cons, List.cons_append, hn, Nat.add_right_comm, dropBytes?, hn,
      if_pos (by omega)]
    rw [show n + byteSize rest + 1 - (n + 1) = byteSize rest by omega]
    exact ih

theorem takeBytes?_byteSize (first second : Text) :
    takeBytes? (byteSize first) (first ++ second) = some first := by
  induction first with
  | nil => cases second <;> rfl
  | cons c rest ih =>
    obtain ⟨n, hn⟩ := Nat.exists_eq_add_one_of_ne_zero (Nat.ne_of_gt c.utf8Size_pos)
    rw [byteSize_cons, List.cons_append, hn, Nat.add_right_comm, takeBytes?, hn,
      if_pos (by omega)]
    rw [show n + byteSize rest + 1 - (n + 1) = byteSize rest by omega, ih]
    rfl

theorem slice?_append (before part after : Text) :
    slice? (before ++ (part ++ after)) (byteSize before) (byteSize before + byteSize part) =
      some part := by
  rw [slice?, if_pos (Nat.le_add_right _ _), dropBytes?_byteSize, Option.bind_some,
    Nat.add_sub_cancel_left, takeBytes?_byteSize]

/-- What follows some bytes is what is left of the text behind them. -/
theorem exists_of_dropBytes? (n : Nat) (text rest : Text) (h : dropBytes? n text = some rest) :
    ∃ before, text = before ++ rest ∧ n = byteSize before := by
  fun_induction dropBytes? n text with
  | case1 text =>
      cases h
      exact ⟨[], rfl, rfl⟩
  | case2 n => cases h
  | case3 n c text hle ih =>
      rcases ih h with ⟨before, rfl, hn⟩
      refine ⟨c :: before, rfl, ?_⟩
      rw [byteSize_cons]
      omega
  | case4 n c text hgt => cases h

theorem exists_of_takeBytes? (n : Nat) (text part : Text) (h : takeBytes? n text = some part) :
    ∃ behind, text = part ++ behind ∧ n = byteSize part := by
  fun_induction takeBytes? n text generalizing part with
  | case1 text =>
      cases h
      exact ⟨text, rfl, rfl⟩
  | case2 n => cases h
  | case3 n c text hle ih =>
      rcases Option.map_eq_some_iff.mp h with ⟨part, hpart, rfl⟩
      rcases ih part hpart with ⟨behind, rfl, hn⟩
      refine ⟨behind, rfl, ?_⟩
      rw [byteSize_cons]
      omega
  | case4 n c text hgt => cases h

/-- Two offsets cut out the text that stands between them. -/
theorem exists_of_slice? (text : Text) (start stop : Nat) (part : Text)
    (h : slice? text start stop = some part) :
    ∃ before behind, text = before ++ (part ++ behind) ∧ start = byteSize before ∧
      stop = start + byteSize part := by
  unfold slice? at h
  by_cases hle : start ≤ stop
  · rw [if_pos hle] at h
    rcases Option.bind_eq_some_iff.mp h with ⟨rest, hdrop, htake⟩
    rcases exists_of_dropBytes? start text rest hdrop with ⟨before, rfl, hstart⟩
    rcases exists_of_takeBytes? _ rest part htake with ⟨behind, rfl, hstop⟩
    exact ⟨before, behind, rfl, hstart, by omega⟩
  · rw [if_neg hle] at h
    cases h

/-- The pieces of a text between occurrences of a separator. There is always one piece more than
    there are separators, so an empty text has one empty piece. -/
def splitAt (separator : Char) : Text → List Text
  | [] => [[]]
  | c :: text =>
    if c = separator then [] :: splitAt separator text
    else
      match splitAt separator text with
      | [] => [[c]]
      | piece :: pieces => (c :: piece) :: pieces

/-- The pieces one after the other, with a separator between each two. -/
def joinWith (separator : Text) : List Text → Text
  | [] => []
  | [piece] => piece
  | piece :: pieces => piece ++ separator ++ joinWith separator pieces

end DirectiveStrip
