import Mathlib.Data.List.Forall2

/-! Decoding typed values out of a parsed JSON document. A decoder gets the path
it stands at and a value, and fails with an error that carries a path. Optional
members may be missing or null; elements of an array may not. Each decoder comes
with what it accepts and with the error it fails with, and its errors lead from
the value it was given to the value that is at fault. -/

namespace JSONDecoding

/-- A parsed document; `N` are its numbers. An object has one member for a name. -/
inductive JSON (N : Type)
  | null
  | bool (value : Bool)
  | number (value : N)
  | string (value : String)
  | array (elements : List (JSON N))
  | object (members : List (String × JSON N))

inductive CodingKey
  | key (name : String)
  | index (i : Nat)
deriving DecidableEq, Repr

abbrev CodingPath := List CodingKey

inductive DecodingError
  | typeMismatch (codingPath : CodingPath)
  | valueNotFound (codingPath : CodingPath)
  | dataCorrupted (codingPath : CodingPath)
deriving DecidableEq, Repr

def DecodingError.codingPath : DecodingError → CodingPath
  | typeMismatch codingPath => codingPath
  | valueNotFound codingPath => codingPath
  | dataCorrupted codingPath => codingPath

variable {N α β : Type}

def JSON.get? : CodingPath → JSON N → Option (JSON N)
  | [], value => some value
  | .key name :: path, .object members => (members.lookup name).bind (JSON.get? path)
  | .index i :: path, .array elements => elements[i]?.bind (JSON.get? path)
  | _ :: _, _ => none

/-- What the kind of an error says about the value at its path. -/
def DecodingError.Explains : DecodingError → JSON N → Prop
  | typeMismatch _, value => value ≠ .null
  | valueNotFound _, value => value = .null
  | dataCorrupted _, value => ∃ n, value = .number n

abbrev Decoder (N α : Type) := CodingPath → JSON N → Except DecodingError α

def unexpected (codingPath : CodingPath) : JSON N → DecodingError
  | .null => .valueNotFound codingPath
  | _ => .typeMismatch codingPath

def decodeString : Decoder N String
  | _, .string value => .ok value
  | codingPath, value => .error (unexpected codingPath value)

def decodeNumber (convert : N → Option α) : Decoder N α
  | codingPath, .number value =>
    match convert value with
    | some number => .ok number
    | none => .error (.dataCorrupted codingPath)
  | codingPath, value => .error (unexpected codingPath value)

def decodeElements (element : Decoder N α) (codingPath : CodingPath) :
    Nat → List (JSON N) → Except DecodingError (List α)
  | _, [] => .ok []
  | i, value :: values =>
    match element (codingPath ++ [.index i]) value with
    | .error error => .error error
    | .ok first => (decodeElements element codingPath (i + 1) values).map (first :: ·)

def decodeArray (element : Decoder N α) : Decoder N (List α)
  | codingPath, .array elements => decodeElements element codingPath 0 elements
  | codingPath, value => .error (unexpected codingPath value)

def decodeObject (fields : CodingPath → List (String × JSON N) → Except DecodingError α) :
    Decoder N α
  | codingPath, .object members => fields codingPath members
  | codingPath, value => .error (unexpected codingPath value)

def decodeIfPresent (value : Decoder N α) (codingPath : CodingPath)
    (members : List (String × JSON N)) (name : String) : Except DecodingError (Option α) :=
  match members.lookup name with
  | none => .ok none
  | some .null => .ok none
  | some member => (value (codingPath ++ [.key name]) member).map some

section Acceptance

theorem bind_eq_ok {ε : Type} {x : Except ε α} {f : α → Except ε β} {b : β} :
    (x >>= f) = .ok b ↔ ∃ a, x = .ok a ∧ f a = .ok b := by
  cases x with
  | error e => simp [bind, Except.bind]
  | ok a => simp [bind, Except.bind]

theorem bind_eq_error {ε : Type} {x : Except ε α} {f : α → Except ε β} {e : ε} :
    (x >>= f) = .error e ↔ x = .error e ∨ ∃ a, x = .ok a ∧ f a = .error e := by
  cases x with
  | error e' => simp [bind, Except.bind]
  | ok a => simp [bind, Except.bind]

theorem map_eq_ok_iff {ε : Type} {x : Except ε α} {f : α → β} {b : β} :
    x.map f = .ok b ↔ ∃ a, x = .ok a ∧ f a = b := by
  cases x with
  | error e => simp [Except.map]
  | ok a => simp [Except.map]

theorem map_eq_error {ε : Type} {x : Except ε α} {f : α → β} {e : ε} :
    x.map f = .error e ↔ x = .error e := by
  cases x with
  | error e' => simp [Except.map]
  | ok a => simp [Except.map]

def Accepts (decoder : Decoder N α) (Reads : JSON N → α → Prop) : Prop :=
  ∀ codingPath value a, decoder codingPath value = .ok a ↔ Reads value a

def ReadsString (value : JSON N) (s : String) : Prop :=
  value = .string s

def ReadsNumber (convert : N → Option α) (value : JSON N) (a : α) : Prop :=
  ∃ n, value = .number n ∧ convert n = some a

def ReadsArray (Reads : JSON N → α → Prop) (value : JSON N) (as : List α) : Prop :=
  ∃ elements, value = .array elements ∧ List.Forall₂ Reads elements as

def ReadsIfPresent (Reads : JSON N → α → Prop) (members : List (String × JSON N)) (name : String) :
    Option α → Prop
  | none => members.lookup name = none ∨ members.lookup name = some .null
  | some a => ∃ member, members.lookup name = some member ∧ member ≠ .null ∧ Reads member a

def ReadsObject (Reads : List (String × JSON N) → α → Prop) (value : JSON N) (a : α) : Prop :=
  ∃ members, value = .object members ∧ Reads members a

theorem accepts_object {fields : CodingPath → List (String × JSON N) → Except DecodingError α}
    {Reads : List (String × JSON N) → α → Prop}
    (h : ∀ codingPath members a, fields codingPath members = .ok a ↔ Reads members a) :
    Accepts (decodeObject fields) (ReadsObject Reads) := by
  intro codingPath value a
  cases value with
  | object members => simp [decodeObject, ReadsObject, h]
  | _ => simp [decodeObject, ReadsObject]

theorem accepts_string : Accepts (decodeString (N := N)) ReadsString := by
  intro codingPath value a
  cases value <;> simp [decodeString, ReadsString]

theorem accepts_number (convert : N → Option α) :
    Accepts (decodeNumber convert) (ReadsNumber convert) := by
  intro codingPath value a
  cases value with
  | number n =>
    cases hn : convert n <;> simp [decodeNumber, ReadsNumber, hn]
  | _ => simp [decodeNumber, ReadsNumber]

theorem decodeElements_eq_ok_iff {element : Decoder N α} {Reads : JSON N → α → Prop}
    (h : Accepts element Reads) (codingPath : CodingPath) (i : Nat) (values : List (JSON N))
    (as : List α) :
    decodeElements element codingPath i values = .ok as ↔ List.Forall₂ Reads values as := by
  induction values generalizing i as with
  | nil => cases as <;> simp [decodeElements]
  | cons value values ih =>
    rw [decodeElements]
    cases hvalue : element (codingPath ++ [.index i]) value with
    | error error =>
      refine iff_of_false (by simp) fun hall => ?_
      cases hall with
      | cons hfirst _ =>
        rw [(h _ value _).mpr hfirst] at hvalue
        cases hvalue
    | ok first =>
      have hfirst : ∀ a, Reads value a ↔ first = a := fun a => by
        rw [← h (codingPath ++ [.index i]) value a, hvalue, Except.ok.injEq]
      cases as with
      | nil => simp [map_eq_ok_iff]
      | cons a as =>
        simp only [map_eq_ok_iff, List.cons.injEq, List.forall₂_cons, hfirst]
        constructor
        · rintro ⟨rest, hrest, rfl, rfl⟩
          exact ⟨rfl, (ih (i + 1) rest).mp hrest⟩
        · rintro ⟨rfl, hrest⟩
          exact ⟨as, (ih (i + 1) as).mpr hrest, rfl, rfl⟩

theorem accepts_array {element : Decoder N α} {Reads : JSON N → α → Prop}
    (h : Accepts element Reads) : Accepts (decodeArray element) (ReadsArray Reads) := by
  intro codingPath value as
  cases value with
  | array elements =>
    simp [decodeArray, ReadsArray, decodeElements_eq_ok_iff h]
  | _ => simp [decodeArray, ReadsArray]

theorem decodeIfPresent_eq_ok_iff {decoder : Decoder N α} {Reads : JSON N → α → Prop}
    (h : Accepts decoder Reads) (codingPath : CodingPath) (members : List (String × JSON N))
    (name : String) (a : Option α) :
    decodeIfPresent decoder codingPath members name = .ok a ↔
      ReadsIfPresent Reads members name a := by
  unfold decodeIfPresent
  cases hmember : members.lookup name with
  | none => cases a <;> simp [ReadsIfPresent, hmember]
  | some member =>
    have hpresent : member ≠ .null →
        ((decoder (codingPath ++ [.key name]) member).map some = .ok a ↔
          ReadsIfPresent Reads members name a) := by
      intro hnull
      cases a with
      | none => simp [ReadsIfPresent, hmember, hnull, map_eq_ok_iff]
      | some a => simp [ReadsIfPresent, hmember, hnull, map_eq_ok_iff, h _ member a]
    cases member with
    | null => cases a <;> simp [ReadsIfPresent, hmember]
    | _ => exact hpresent (by simp)

end Acceptance

section Errors

def errorOf {ε : Type} : Except ε α → Option ε
  | .error error => some error
  | .ok _ => none

theorem errorOf_eq_some_iff {ε : Type} {x : Except ε α} {e : ε} :
    errorOf x = some e ↔ x = .error e := by
  cases x <;> simp [errorOf]

theorem errorOf_eq_none_iff {ε : Type} {x : Except ε α} :
    errorOf x = none ↔ ∃ a, x = .ok a := by
  cases x <;> simp [errorOf]

theorem errorOf_bind {ε : Type} {x : Except ε α} {f : α → Except ε β} {rest : Option ε}
    (h : ∀ a, errorOf (f a) = rest) : errorOf (x >>= f) = (errorOf x).or rest := by
  cases x with
  | error e => rfl
  | ok a => exact h a

theorem decodeIfPresent_eq_error_iff {decoder : Decoder N α} {codingPath : CodingPath}
    {members : List (String × JSON N)} {name : String} {error : DecodingError} :
    decodeIfPresent decoder codingPath members name = .error error ↔
      ∃ member, members.lookup name = some member ∧ member ≠ .null ∧
        decoder (codingPath ++ [.key name]) member = .error error := by
  unfold decodeIfPresent
  cases members.lookup name with
  | none => simp
  | some member => cases member <;> simp [map_eq_error]

theorem decodeElements_eq_error_iff {element : Decoder N α} {codingPath : CodingPath} {i : Nat}
    {values : List (JSON N)} {error : DecodingError} :
    decodeElements element codingPath i values = .error error ↔
      ∃ (j : Nat) (value : JSON N), values[j]? = some value ∧
        element (codingPath ++ [.index (i + j)]) value = .error error ∧
        ∀ k < j, ∀ earlier, values[k]? = some earlier →
          ∃ a, element (codingPath ++ [.index (i + k)]) earlier = .ok a := by
  induction values generalizing i with
  | nil => simp [decodeElements]
  | cons value values ih =>
    rw [decodeElements]
    cases hvalue : element (codingPath ++ [.index i]) value with
    | error e =>
      simp only [Except.error.injEq]
      constructor
      · rintro rfl
        exact ⟨0, value, rfl, hvalue, fun k hk => absurd hk (Nat.not_lt_zero k)⟩
      · rintro ⟨j, other, hj, hother, hearlier⟩
        cases j with
        | zero =>
          obtain rfl : value = other := by simpa using hj
          exact Except.error.inj (hvalue.symm.trans hother)
        | succ j =>
          obtain ⟨a, ha⟩ := hearlier 0 (Nat.succ_pos j) value rfl
          cases hvalue.symm.trans ha
    | ok first =>
      simp only [map_eq_error, ih]
      constructor
      · rintro ⟨j, other, hj, hother, hearlier⟩
        refine ⟨j + 1, other, hj, ?_, fun k hk earlier hk' => ?_⟩
        · rwa [show i + (j + 1) = i + 1 + j by omega]
        · cases k with
          | zero =>
            obtain rfl : value = earlier := by simpa using hk'
            exact ⟨first, hvalue⟩
          | succ k =>
            have hrest := hearlier k (Nat.lt_of_succ_lt_succ hk) earlier hk'
            rwa [show i + (k + 1) = i + 1 + k by omega]
      · rintro ⟨j, other, hj, hother, hearlier⟩
        cases j with
        | zero =>
          obtain rfl : value = other := by simpa using hj
          cases hvalue.symm.trans hother
        | succ j =>
          refine ⟨j, other, hj, ?_, fun k hk earlier hk' => ?_⟩
          · rwa [show i + 1 + j = i + (j + 1) by omega]
          · have hrest := hearlier (k + 1) (Nat.succ_lt_succ hk) earlier hk'
            rwa [show i + 1 + k = i + (k + 1) by omega]

end Errors

section Location

/-- An error of the result carries the path it started from and a path from the
value to what is at fault there. -/
def PointsInto (codingPath : CodingPath) (value : JSON N) (x : Except DecodingError α) : Prop :=
  ∀ error, x = .error error → ∃ path fault, error.codingPath = codingPath ++ path ∧
    value.get? path = some fault ∧ error.Explains fault

def Located (decoder : Decoder N α) : Prop :=
  ∀ codingPath value, PointsInto codingPath value (decoder codingPath value)

theorem pointsInto_unexpected (codingPath : CodingPath) (value : JSON N) :
    PointsInto codingPath value
      (.error (unexpected codingPath value) : Except DecodingError α) := by
  intro error h
  obtain rfl := Except.error.inj h
  refine ⟨[], value, ?_, rfl, ?_⟩
  · cases value <;> simp [unexpected, DecodingError.codingPath]
  · cases value <;> simp [unexpected, DecodingError.Explains]

theorem pointsInto_ok {codingPath : CodingPath} {value : JSON N} (a : α) :
    PointsInto codingPath value (.ok a) := by
  intro error h
  cases h

theorem PointsInto.bind {codingPath : CodingPath} {value : JSON N} {x : Except DecodingError α}
    {f : α → Except DecodingError β} (h : PointsInto codingPath value x)
    (k : ∀ a, PointsInto codingPath value (f a)) : PointsInto codingPath value (x >>= f) := by
  intro error herror
  cases bind_eq_error.mp herror with
  | inl hx => exact h error hx
  | inr hf =>
    obtain ⟨a, -, ha⟩ := hf
    exact k a error ha

theorem located_string : Located (decodeString (N := N)) := by
  intro codingPath value
  cases value with
  | string s => exact pointsInto_ok s
  | _ => exact pointsInto_unexpected codingPath _

theorem located_number (convert : N → Option α) : Located (decodeNumber convert) := by
  intro codingPath value
  cases value with
  | number n =>
    intro error h
    cases hn : convert n with
    | some a => simp [decodeNumber, hn] at h
    | none =>
      obtain rfl : DecodingError.dataCorrupted codingPath = error := by
        simpa [decodeNumber, hn] using h
      exact ⟨[], .number n, by simp [DecodingError.codingPath], rfl, n, rfl⟩
  | _ => exact pointsInto_unexpected codingPath _

theorem located_array {element : Decoder N α} (h : Located element) :
    Located (decodeArray element) := by
  intro codingPath value
  cases value with
  | array elements =>
    intro error herror
    obtain ⟨j, member, hj, hmember, -⟩ := decodeElements_eq_error_iff.mp herror
    obtain ⟨path, fault, hpath, hfault, hexplains⟩ := h _ member error hmember
    refine ⟨.index j :: path, fault, ?_, ?_, hexplains⟩
    · rw [hpath]
      simp
    · simp [JSON.get?, hj, hfault]
  | _ => exact pointsInto_unexpected codingPath _

theorem located_object {fields : CodingPath → List (String × JSON N) → Except DecodingError α}
    (h : ∀ codingPath members, PointsInto codingPath (.object members) (fields codingPath members)) :
    Located (decodeObject fields) := by
  intro codingPath value
  cases value with
  | object members => exact h codingPath members
  | _ => exact pointsInto_unexpected codingPath _

theorem pointsInto_ifPresent {decoder : Decoder N α} (h : Located decoder)
    (codingPath : CodingPath) (members : List (String × JSON N)) (name : String) :
    PointsInto codingPath (.object members)
      (decodeIfPresent decoder codingPath members name) := by
  intro error herror
  obtain ⟨member, hlookup, -, hmember⟩ := decodeIfPresent_eq_error_iff.mp herror
  obtain ⟨path, fault, hpath, hfault, hexplains⟩ := h _ member error hmember
  refine ⟨.key name :: path, fault, ?_, ?_, hexplains⟩
  · rw [hpath]
    simp
  · simp [JSON.get?, hlookup, hfault]

theorem ifPresent_codingPath {decoder : Decoder N α} (h : Located decoder) {codingPath : CodingPath}
    {members : List (String × JSON N)} {name : String} {error : DecodingError}
    (herror : decodeIfPresent decoder codingPath members name = .error error) :
    ∃ rest, error.codingPath = codingPath ++ .key name :: rest := by
  obtain ⟨member, -, -, hmember⟩ := decodeIfPresent_eq_error_iff.mp herror
  obtain ⟨path, fault, hpath, -, -⟩ := h _ member error hmember
  exact ⟨path, by rw [hpath]; simp⟩

end Location

end JSONDecoding
