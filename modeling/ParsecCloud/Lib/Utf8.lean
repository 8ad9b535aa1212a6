import ParsecCloud.Lib.Rust

/- Texts as the lists of their characters, with the bytes of their UTF-8 form: str::len, slices
   between two byte positions, and str::split_once. -/
namespace Rust

def utf8Len : List Char → Nat
  | [] => 0
  | c :: rest => c.utf8Size + utf8Len rest

/-- str::split_once -/
def splitOnce (separator : Char) : List Char → Option (List Char × List Char)
  | [] => none
  | c :: rest =>
    if c = separator then some ([], rest)
    else (splitOnce separator rest).map fun (before, after) => (c :: before, after)

/-- The slice of the first n bytes, if it ends between two characters. -/
def takeBytes : List Char → Nat → Option (List Char)
  | _, 0 => some []
  | [], _ + 1 => none
  | c :: rest, n + 1 =>
    if c.utf8Size ≤ n + 1 then (takeBytes rest (n + 1 - c.utf8Size)).map (c :: ·) else none

/-- str::is_char_boundary -/
def isCharBoundary (text : List Char) (n : Nat) : Bool := (takeBytes text n).isSome

/-- The slice expression text[first..last] of a str -/
def strSlice (text : List Char) (first last : Nat) : Checked (List Char) :=
  match takeBytes text first, takeBytes text last with
  | some before, some front =>
    if first ≤ last then .ok (front.drop before.length) else .error .outOfRange
  | _, _ => .error .outOfRange

/-- The texts of one byte for each character. -/
def Ascii (text : List Char) : Prop := ∀ c ∈ text, c.utf8Size = 1

instance (text : List Char) : Decidable (Ascii text) :=
  inferInstanceAs (Decidable (∀ c ∈ text, c.utf8Size = 1))

theorem utf8Len_append (a b : List Char) : utf8Len (a ++ b) = utf8Len a + utf8Len b := by
  induction a with
  | nil => simp [utf8Len]
  | cons c rest ih =>
    simp only [List.cons_append, utf8Len, ih]
    omega

theorem takeBytes_spec {chars front : List Char} {n : Nat} (cut : takeBytes chars n = some front) :
    utf8Len front = n ∧ front <+: chars := by
  induction chars generalizing n front with
  | nil =>
    cases n with
    | zero =>
      cases cut
      exact ⟨rfl, List.prefix_rfl⟩
    | succ n => cases cut
  | cons c rest ih =>
    cases n with
    | zero =>
      cases cut
      exact ⟨rfl, List.nil_prefix⟩
    | succ n =>
      simp only [takeBytes] at cut
      split at cut
      · rename_i fits
        obtain ⟨later, cutLater, rfl⟩ := Option.map_eq_some_iff.mp cut
        obtain ⟨length, isPrefix⟩ := ih cutLater
        refine ⟨?_, List.cons_prefix_cons.mpr ⟨rfl, isPrefix⟩⟩
        rw [utf8Len, length]
        omega
      · cases cut

theorem takeBytes_append (front back : List Char) :
    takeBytes (front ++ back) (utf8Len front) = some front := by
  induction front with
  | nil => cases back <;> rfl
  | cons c rest ih =>
    have size := c.utf8Size_pos
    obtain ⟨n, length⟩ : ∃ n, c.utf8Size + utf8Len rest = n + 1 :=
      ⟨c.utf8Size + utf8Len rest - 1, by omega⟩
    have remaining : n + 1 - c.utf8Size = utf8Len rest := by omega
    simp only [utf8Len, List.cons_append, length, takeBytes, remaining, ih, Option.map_some]
    simp only [ite_eq_left_iff]
    omega

/-- A slice panics when its bounds cross, or when one of them is inside a character. -/
theorem strSlice_returns {text : List Char} {first last : Nat} :
    (∃ part, strSlice text first last = .ok part) ↔
      first ≤ last ∧ isCharBoundary text first = true ∧ isCharBoundary text last = true := by
  unfold strSlice isCharBoundary
  cases takeBytes text first with
  | none => simp
  | some before =>
    cases takeBytes text last with
    | none => simp
    | some front =>
      by_cases ordered : first ≤ last
      · simp [ordered]
      · simp [ordered]

theorem strSlice_middle (before part after : List Char) :
    strSlice (before ++ (part ++ after)) (utf8Len before) (utf8Len before + utf8Len part) =
      .ok part := by
  have whole := takeBytes_append (before ++ part) after
  rw [utf8Len_append, List.append_assoc] at whole
  simp [strSlice, takeBytes_append, whole]

theorem utf8Len_ascii {text : List Char} (ascii : Ascii text) : utf8Len text = text.length := by
  induction text with
  | nil => rfl
  | cons c rest ih =>
    have first := ascii c List.mem_cons_self
    have later := ih fun other isLater => ascii other (List.mem_cons_of_mem c isLater)
    simp only [utf8Len, List.length_cons]
    omega

theorem takeBytes_takeBytes {chars front : List Char} {n m : Nat}
    (cut : takeBytes chars n = some front) (le : m ≤ n) : takeBytes front m = takeBytes chars m := by
  induction chars generalizing n m front with
  | nil =>
    cases n with
    | zero =>
      cases cut
      rfl
    | succ n => cases cut
  | cons c rest ih =>
    cases n with
    | zero =>
      cases Nat.le_zero.mp le
      cases front <;> rfl
    | succ n =>
      simp only [takeBytes] at cut
      split at cut
      · rename_i fits
        obtain ⟨later, cutLater, rfl⟩ := Option.map_eq_some_iff.mp cut
        cases m with
        | zero => rfl
        | succ m =>
          simp only [takeBytes]
          split
          · rw [ih cutLater (by omega)]
          · rfl
      · cases cut

theorem splitOnce_spec {separator : Char} {chars before after : List Char}
    (split : splitOnce separator chars = some (before, after)) :
    chars = before ++ separator :: after := by
  induction chars generalizing before with
  | nil => cases split
  | cons c rest ih =>
    simp only [splitOnce] at split
    split at split
    · rename_i same
      cases split
      rw [same]
      rfl
    · obtain ⟨⟨first, second⟩, later, same⟩ := Option.map_eq_some_iff.mp split
      cases same
      rw [ih later]
      rfl

theorem not_mem_of_splitOnce_none {separator : Char} {chars : List Char}
    (split : splitOnce separator chars = none) : separator ∉ chars := by
  induction chars with
  | nil => simp
  | cons c rest later =>
    simp only [splitOnce] at split
    split at split
    · cases split
    · rename_i other
      have absent := later (Option.map_eq_none_iff.mp split)
      simp [absent, Ne.symm other]

theorem not_mem_before {separator : Char} {chars before after : List Char}
    (split : splitOnce separator chars = some (before, after)) : separator ∉ before := by
  induction chars generalizing before with
  | nil => cases split
  | cons c rest later =>
    simp only [splitOnce] at split
    split at split
    · cases split
      simp
    · rename_i other
      obtain ⟨⟨first, second⟩, splitRest, same⟩ := Option.map_eq_some_iff.mp split
      cases same
      simp [later splitRest, Ne.symm other]

theorem splitOnce_append {separator : Char} {before : List Char} (absent : separator ∉ before)
    (after : List Char) : splitOnce separator (before ++ separator :: after) = some (before, after) := by
  induction before with
  | nil => simp [splitOnce]
  | cons c rest later =>
    rw [List.mem_cons, not_or] at absent
    simp [splitOnce, later absent.2, Ne.symm absent.1]

end Rust
