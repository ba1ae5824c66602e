import TVShows.JSONDecoding
import TVShows.ShowsFetchingRuns

/-! Decoding the body of a response. The initializers are the ones that `Codable`
synthesizes: an object whose members are read one by one in the order of the
properties, each optional. Parsing the bytes and converting the numbers of a
document are parameters. The list is all or nothing, so one member of one show
that does not read leaves the screen with the retry dialog. -/

namespace TVShows

open JSONDecoding TransitionRun

variable {N Data : Type}

/-- How the numbers of a document convert, where they fit. -/
structure NumberReading (N : Type) where
  int : N → Option Int
  double : N → Option Double

inductive TVShow.CodingKeys
  | id
  | externals
  | genres
  | image
  | language
  | name
  | premiered
  | rating
  | runtime
  | status
  | summary
  | updated
  | url
deriving DecidableEq, Repr

namespace TVShow.CodingKeys

def stringValue : CodingKeys → String
  | id => "id"
  | externals => "externals"
  | genres => "genres"
  | image => "image"
  | language => "language"
  | name => "name"
  | premiered => "premiered"
  | rating => "rating"
  | runtime => "runtime"
  | status => "status"
  | summary => "summary"
  | updated => "updated"
  | url => "url"

def allCases : List CodingKeys :=
  [id, externals, genres, image, language, name, premiered, rating, runtime, status, summary,
    updated, url]

end TVShow.CodingKeys

def Externals.initFrom : Decoder N Externals :=
  decodeObject fun codingPath members => do
    let imdb ← decodeIfPresent decodeString codingPath members "imdb"
    .ok { imdb := imdb }

def Image.initFrom : Decoder N Image :=
  decodeObject fun codingPath members => do
    let medium ← decodeIfPresent decodeString codingPath members "medium"
    let original ← decodeIfPresent decodeString codingPath members "original"
    .ok { medium := medium, original := original }

def Rating.initFrom (numbers : NumberReading N) : Decoder N Rating :=
  decodeObject fun codingPath members => do
    let average ← decodeIfPresent (decodeNumber numbers.double) codingPath members "average"
    .ok { average := average }

def TVShow.fields (numbers : NumberReading N) (codingPath : CodingPath)
    (members : List (String × JSON N)) : Except DecodingError TVShow := do
  let id ← decodeIfPresent (decodeNumber numbers.int) codingPath members CodingKeys.id.stringValue
  let externals ← decodeIfPresent Externals.initFrom codingPath members
    CodingKeys.externals.stringValue
  let genres ← decodeIfPresent (decodeArray decodeString) codingPath members
    CodingKeys.genres.stringValue
  let image ← decodeIfPresent Image.initFrom codingPath members CodingKeys.image.stringValue
  let language ← decodeIfPresent decodeString codingPath members CodingKeys.language.stringValue
  let name ← decodeIfPresent decodeString codingPath members CodingKeys.name.stringValue
  let premiered ← decodeIfPresent decodeString codingPath members CodingKeys.premiered.stringValue
  let rating ← decodeIfPresent (Rating.initFrom numbers) codingPath members
    CodingKeys.rating.stringValue
  let runtime ← decodeIfPresent (decodeNumber numbers.int) codingPath members
    CodingKeys.runtime.stringValue
  let status ← decodeIfPresent decodeString codingPath members CodingKeys.status.stringValue
  let summary ← decodeIfPresent decodeString codingPath members CodingKeys.summary.stringValue
  let updated ← decodeIfPresent (decodeNumber numbers.int) codingPath members
    CodingKeys.updated.stringValue
  let url ← decodeIfPresent decodeString codingPath members CodingKeys.url.stringValue
  .ok ⟨id, externals, genres, image, language, name, premiered, rating, runtime, status, summary,
    updated, url⟩

def TVShow.initFrom (numbers : NumberReading N) : Decoder N TVShow :=
  decodeObject (TVShow.fields numbers)

def toSwiftError : DecodingError → SwiftError
  | .valueNotFound _ => .nsError "NSCocoaErrorDomain" 4865
  | _ => .nsError "NSCocoaErrorDomain" 4864

/-- `JSONDecoder().decode([TVShow].self, from: data)`; bytes that do not parse
are corrupted data at the root. -/
def decodeShows (parse : Data → Option (JSON N)) (numbers : NumberReading N) (data : Data) :
    Except SwiftError (List TVShow) :=
  match parse data with
  | none => .error (toSwiftError (.dataCorrupted []))
  | some json => (decodeArray (TVShow.initFrom numbers) [] json).mapError toSwiftError

section Reading

def ReadsExternals (members : List (String × JSON N)) (externals : Externals) : Prop :=
  ReadsIfPresent ReadsString members "imdb" externals.imdb

def ReadsImage (members : List (String × JSON N)) (image : Image) : Prop :=
  ReadsIfPresent ReadsString members "medium" image.medium ∧
    ReadsIfPresent ReadsString members "original" image.original

def ReadsRating (numbers : NumberReading N) (members : List (String × JSON N)) (rating : Rating) :
    Prop :=
  ReadsIfPresent (ReadsNumber numbers.double) members "average" rating.average

structure ReadsShow (numbers : NumberReading N) (members : List (String × JSON N)) (t : TVShow) :
    Prop where
  id : ReadsIfPresent (ReadsNumber numbers.int) members "id" t.id
  externals : ReadsIfPresent (ReadsObject ReadsExternals) members "externals" t.externals
  genres : ReadsIfPresent (ReadsArray ReadsString) members "genres" t.genres
  image : ReadsIfPresent (ReadsObject ReadsImage) members "image" t.image
  language : ReadsIfPresent ReadsString members "language" t.language
  name : ReadsIfPresent ReadsString members "name" t.name
  premiered : ReadsIfPresent ReadsString members "premiered" t.premiered
  rating : ReadsIfPresent (ReadsObject (ReadsRating numbers)) members "rating" t.rating
  runtime : ReadsIfPresent (ReadsNumber numbers.int) members "runtime" t.runtime
  status : ReadsIfPresent ReadsString members "status" t.status
  summary : ReadsIfPresent ReadsString members "summary" t.summary
  updated : ReadsIfPresent (ReadsNumber numbers.int) members "updated" t.updated
  url : ReadsIfPresent ReadsString members "url" t.url

def ReadsShows (numbers : NumberReading N) : JSON N → List TVShow → Prop :=
  ReadsArray (ReadsObject (ReadsShow numbers))

theorem accepts_externals : Accepts (Externals.initFrom (N := N)) (ReadsObject ReadsExternals) := by
  refine accepts_object fun codingPath members externals => ?_
  simp only [bind_eq_ok, decodeIfPresent_eq_ok_iff accepts_string, ReadsExternals]
  constructor
  · rintro ⟨imdb, himdb, hok⟩
    exact Except.ok.inj hok ▸ himdb
  · exact fun himdb => ⟨_, himdb, rfl⟩

theorem accepts_image : Accepts (Image.initFrom (N := N)) (ReadsObject ReadsImage) := by
  refine accepts_object fun codingPath members image => ?_
  simp only [bind_eq_ok, decodeIfPresent_eq_ok_iff accepts_string, ReadsImage]
  constructor
  · rintro ⟨medium, hmedium, original, horiginal, hok⟩
    exact Except.ok.inj hok ▸ ⟨hmedium, horiginal⟩
  · rintro ⟨hmedium, horiginal⟩
    exact ⟨_, hmedium, _, horiginal, rfl⟩

theorem accepts_rating (numbers : NumberReading N) :
    Accepts (Rating.initFrom numbers) (ReadsObject (ReadsRating numbers)) := by
  refine accepts_object fun codingPath members rating => ?_
  simp only [bind_eq_ok, decodeIfPresent_eq_ok_iff (accepts_number numbers.double), ReadsRating]
  constructor
  · rintro ⟨average, haverage, hok⟩
    exact Except.ok.inj hok ▸ haverage
  · exact fun haverage => ⟨_, haverage, rfl⟩

theorem fields_eq_ok_iff (numbers : NumberReading N) (codingPath : CodingPath)
    (members : List (String × JSON N)) (t : TVShow) :
    TVShow.fields numbers codingPath members = .ok t ↔ ReadsShow numbers members t := by
  simp only [TVShow.fields, bind_eq_ok, decodeIfPresent_eq_ok_iff accepts_string,
    decodeIfPresent_eq_ok_iff (accepts_number numbers.int),
    decodeIfPresent_eq_ok_iff accepts_externals, decodeIfPresent_eq_ok_iff accepts_image,
    decodeIfPresent_eq_ok_iff (accepts_rating numbers),
    decodeIfPresent_eq_ok_iff (accepts_array accepts_string), TVShow.CodingKeys.stringValue]
  constructor
  · rintro ⟨id, hid, externals, hexternals, genres, hgenres, image, himage, language, hlanguage,
      name, hname, premiered, hpremiered, rating, hrating, runtime, hruntime, status, hstatus,
      summary, hsummary, updated, hupdated, url, hurl, hok⟩
    exact Except.ok.inj hok ▸ ⟨hid, hexternals, hgenres, himage, hlanguage, hname, hpremiered,
      hrating, hruntime, hstatus, hsummary, hupdated, hurl⟩
  · intro h
    exact ⟨_, h.id, _, h.externals, _, h.genres, _, h.image, _, h.language, _, h.name, _,
      h.premiered, _, h.rating, _, h.runtime, _, h.status, _, h.summary, _, h.updated, _, h.url,
      rfl⟩

theorem accepts_shows (numbers : NumberReading N) :
    Accepts (decodeArray (TVShow.initFrom numbers)) (ReadsShows numbers) :=
  accepts_array (accepts_object (fields_eq_ok_iff numbers))

end Reading

section Faults

def TVShow.fault (numbers : NumberReading N) (codingPath : CodingPath)
    (members : List (String × JSON N)) (key : CodingKeys) : Option DecodingError :=
  match key with
  | .id => errorOf (decodeIfPresent (decodeNumber numbers.int) codingPath members key.stringValue)
  | .externals => errorOf (decodeIfPresent Externals.initFrom codingPath members key.stringValue)
  | .genres =>
    errorOf (decodeIfPresent (decodeArray decodeString) codingPath members key.stringValue)
  | .image => errorOf (decodeIfPresent Image.initFrom codingPath members key.stringValue)
  | .language => errorOf (decodeIfPresent decodeString codingPath members key.stringValue)
  | .name => errorOf (decodeIfPresent decodeString codingPath members key.stringValue)
  | .premiered => errorOf (decodeIfPresent decodeString codingPath members key.stringValue)
  | .rating =>
    errorOf (decodeIfPresent (Rating.initFrom numbers) codingPath members key.stringValue)
  | .runtime =>
    errorOf (decodeIfPresent (decodeNumber numbers.int) codingPath members key.stringValue)
  | .status => errorOf (decodeIfPresent decodeString codingPath members key.stringValue)
  | .summary => errorOf (decodeIfPresent decodeString codingPath members key.stringValue)
  | .updated =>
    errorOf (decodeIfPresent (decodeNumber numbers.int) codingPath members key.stringValue)
  | .url => errorOf (decodeIfPresent decodeString codingPath members key.stringValue)

theorem errorOf_fields (numbers : NumberReading N) (codingPath : CodingPath)
    (members : List (String × JSON N)) :
    errorOf (TVShow.fields numbers codingPath members) =
      TVShow.CodingKeys.allCases.findSome? (TVShow.fault numbers codingPath members) := by
  have hor : ∀ (key : TVShow.CodingKeys) (keys : List TVShow.CodingKeys),
      (key :: keys).findSome? (TVShow.fault numbers codingPath members) =
        (TVShow.fault numbers codingPath members key).or
          (keys.findSome? (TVShow.fault numbers codingPath members)) := by
    intro key keys
    rw [List.findSome?_cons]
    cases TVShow.fault numbers codingPath members key <;> rfl
  simp only [TVShow.CodingKeys.allCases, hor, List.findSome?_nil]
  unfold TVShow.fields
  iterate 13 refine errorOf_bind fun _ => ?_
  rfl

def Readable (numbers : NumberReading N) (members : List (String × JSON N)) :
    TVShow.CodingKeys → Prop
  | .id => ∃ a, ReadsIfPresent (ReadsNumber numbers.int) members "id" a
  | .externals => ∃ a, ReadsIfPresent (ReadsObject ReadsExternals) members "externals" a
  | .genres => ∃ a, ReadsIfPresent (ReadsArray ReadsString) members "genres" a
  | .image => ∃ a, ReadsIfPresent (ReadsObject ReadsImage) members "image" a
  | .language => ∃ a, ReadsIfPresent ReadsString members "language" a
  | .name => ∃ a, ReadsIfPresent ReadsString members "name" a
  | .premiered => ∃ a, ReadsIfPresent ReadsString members "premiered" a
  | .rating => ∃ a, ReadsIfPresent (ReadsObject (ReadsRating numbers)) members "rating" a
  | .runtime => ∃ a, ReadsIfPresent (ReadsNumber numbers.int) members "runtime" a
  | .status => ∃ a, ReadsIfPresent ReadsString members "status" a
  | .summary => ∃ a, ReadsIfPresent ReadsString members "summary" a
  | .updated => ∃ a, ReadsIfPresent (ReadsNumber numbers.int) members "updated" a
  | .url => ∃ a, ReadsIfPresent ReadsString members "url" a

theorem errorOf_ifPresent_eq_none_iff {α : Type} {decoder : Decoder N α} {Reads : JSON N → α → Prop}
    (h : Accepts decoder Reads) (codingPath : CodingPath) (members : List (String × JSON N))
    (name : String) :
    errorOf (decodeIfPresent decoder codingPath members name) = none ↔
      ∃ a, ReadsIfPresent Reads members name a :=
  errorOf_eq_none_iff.trans (exists_congr fun a => decodeIfPresent_eq_ok_iff h _ _ _ a)

theorem fault_eq_none_iff (numbers : NumberReading N) (codingPath : CodingPath)
    (members : List (String × JSON N)) (key : TVShow.CodingKeys) :
    TVShow.fault numbers codingPath members key = none ↔ Readable numbers members key := by
  cases key with
  | id => exact errorOf_ifPresent_eq_none_iff (accepts_number numbers.int) _ _ _
  | externals => exact errorOf_ifPresent_eq_none_iff accepts_externals _ _ _
  | genres => exact errorOf_ifPresent_eq_none_iff (accepts_array accepts_string) _ _ _
  | image => exact errorOf_ifPresent_eq_none_iff accepts_image _ _ _
  | rating => exact errorOf_ifPresent_eq_none_iff (accepts_rating numbers) _ _ _
  | runtime => exact errorOf_ifPresent_eq_none_iff (accepts_number numbers.int) _ _ _
  | updated => exact errorOf_ifPresent_eq_none_iff (accepts_number numbers.int) _ _ _
  | _ => exact errorOf_ifPresent_eq_none_iff accepts_string _ _ _

theorem located_externals : Located (Externals.initFrom (N := N)) :=
  located_object fun codingPath members =>
    (pointsInto_ifPresent located_string codingPath members _).bind fun _ => pointsInto_ok _

theorem located_image : Located (Image.initFrom (N := N)) :=
  located_object fun codingPath members =>
    (pointsInto_ifPresent located_string codingPath members _).bind fun _ =>
      (pointsInto_ifPresent located_string codingPath members _).bind fun _ => pointsInto_ok _

theorem located_rating (numbers : NumberReading N) : Located (Rating.initFrom numbers) :=
  located_object fun codingPath members =>
    (pointsInto_ifPresent (located_number numbers.double) codingPath members _).bind fun _ =>
      pointsInto_ok _

theorem errorOf_ifPresent {α : Type} {decoder : Decoder N α} (h : Located decoder)
    {codingPath : CodingPath} {members : List (String × JSON N)} {name : String}
    {error : DecodingError}
    (herror : errorOf (decodeIfPresent decoder codingPath members name) = some error) :
    (∃ rest, error.codingPath = codingPath ++ .key name :: rest) ∧
      ∃ path fault, error.codingPath = codingPath ++ path ∧
        (JSON.object members).get? path = some fault ∧ error.Explains fault :=
  have hfailed := errorOf_eq_some_iff.mp herror
  ⟨ifPresent_codingPath h hfailed, pointsInto_ifPresent h codingPath members name error hfailed⟩

theorem fault_located {numbers : NumberReading N} {codingPath : CodingPath}
    {members : List (String × JSON N)} {key : TVShow.CodingKeys} {error : DecodingError}
    (h : TVShow.fault numbers codingPath members key = some error) :
    (∃ rest, error.codingPath = codingPath ++ .key key.stringValue :: rest) ∧
      ∃ path fault, error.codingPath = codingPath ++ path ∧
        (JSON.object members).get? path = some fault ∧ error.Explains fault := by
  cases key with
  | id => exact errorOf_ifPresent (located_number numbers.int) h
  | externals => exact errorOf_ifPresent located_externals h
  | genres => exact errorOf_ifPresent (located_array located_string) h
  | image => exact errorOf_ifPresent located_image h
  | rating => exact errorOf_ifPresent (located_rating numbers) h
  | runtime => exact errorOf_ifPresent (located_number numbers.int) h
  | updated => exact errorOf_ifPresent (located_number numbers.int) h
  | _ => exact errorOf_ifPresent located_string h

/-- The first thing in the document that does not read: the root, an element, or
a property of an element. Whatever is read before it reads. -/
inductive FirstFault (numbers : NumberReading N) (json : JSON N) (error : DecodingError) : Prop
  | notArray : (∀ elements, json ≠ .array elements) → error = unexpected [] json →
      FirstFault numbers json error
  | notObject (elements : List (JSON N)) (i : Nat) (value : JSON N) : json = .array elements →
      elements[i]? = some value →
      (∀ j < i, ∀ earlier, elements[j]? = some earlier →
        ∃ t, ReadsObject (ReadsShow numbers) earlier t) →
      (∀ members, value ≠ .object members) → error = unexpected [.index i] value →
      FirstFault numbers json error
  | property (elements : List (JSON N)) (i : Nat) (members : List (String × JSON N))
      (before : List TVShow.CodingKeys) (key : TVShow.CodingKeys)
      (after : List TVShow.CodingKeys) : json = .array elements →
      elements[i]? = some (.object members) →
      (∀ j < i, ∀ earlier, elements[j]? = some earlier →
        ∃ t, ReadsObject (ReadsShow numbers) earlier t) →
      TVShow.CodingKeys.allCases = before ++ key :: after →
      (∀ earlier ∈ before, Readable numbers members earlier) →
      TVShow.fault numbers [.index i] members key = some error →
      FirstFault numbers json error

theorem initFrom_eq_error_iff {numbers : NumberReading N} {codingPath : CodingPath}
    {value : JSON N} {error : DecodingError} :
    TVShow.initFrom numbers codingPath value = .error error ↔
      ((∀ members, value ≠ .object members) ∧ error = unexpected codingPath value) ∨
        ∃ members before key after, value = .object members ∧
          TVShow.CodingKeys.allCases = before ++ key :: after ∧
          (∀ earlier ∈ before, Readable numbers members earlier) ∧
          TVShow.fault numbers codingPath members key = some error := by
  cases value with
  | object members =>
    have hfields : TVShow.initFrom numbers codingPath (.object members) = .error error ↔
        TVShow.CodingKeys.allCases.findSome? (TVShow.fault numbers codingPath members) =
          some error := by
      rw [← errorOf_fields]
      exact errorOf_eq_some_iff.symm
    rw [hfields, List.findSome?_eq_some_iff]
    constructor
    · rintro ⟨before, key, after, hkeys, hfault, hbefore⟩
      exact .inr ⟨members, before, key, after, rfl, hkeys,
        fun earlier hmem => (fault_eq_none_iff _ _ _ _).mp (hbefore earlier hmem), hfault⟩
    · rintro (⟨hobject, -⟩ | ⟨members', before, key, after, hobject, hkeys, hbefore, hfault⟩)
      · exact absurd rfl (hobject members)
      · obtain rfl := JSON.object.inj hobject
        exact ⟨before, key, after, hkeys, hfault,
          fun earlier hmem => (fault_eq_none_iff _ _ _ _).mpr (hbefore earlier hmem)⟩
  | _ => simp [TVShow.initFrom, decodeObject, eq_comm]

theorem firstFault_of_error {numbers : NumberReading N} {json : JSON N} {error : DecodingError}
    (h : decodeArray (TVShow.initFrom numbers) [] json = .error error) :
    FirstFault numbers json error := by
  cases json with
  | array elements =>
    obtain ⟨i, value, hi, hvalue, hearlier⟩ := decodeElements_eq_error_iff.mp h
    rw [Nat.zero_add] at hvalue
    have hread : ∀ j < i, ∀ earlier, elements[j]? = some earlier →
        ∃ t, ReadsObject (ReadsShow numbers) earlier t := by
      intro j hj earlier hget
      obtain ⟨t, ht⟩ := hearlier j hj earlier hget
      exact ⟨t, (accepts_object (fields_eq_ok_iff numbers) _ earlier t).mp ht⟩
    obtain ⟨hobject, herror⟩ | ⟨members, before, key, after, rfl, hkeys, hbefore, hfault⟩ :=
      initFrom_eq_error_iff.mp hvalue
    · exact .notObject elements i value rfl hi hread hobject herror
    · exact .property elements i members before key after rfl hi hread hkeys hbefore hfault
  | _ => exact .notArray (by simp) (Except.error.inj h).symm

theorem error_of_firstFault {numbers : NumberReading N} {json : JSON N} {error : DecodingError}
    (h : FirstFault numbers json error) :
    decodeArray (TVShow.initFrom numbers) [] json = .error error := by
  have helement : ∀ (elements : List (JSON N)) (i : Nat) (value : JSON N),
      elements[i]? = some value →
      (∀ j < i, ∀ earlier, elements[j]? = some earlier →
        ∃ t, ReadsObject (ReadsShow numbers) earlier t) →
      TVShow.initFrom numbers [.index i] value = .error error →
      decodeArray (TVShow.initFrom numbers) [] (.array elements) = .error error := by
    intro elements i value hi hread hvalue
    refine decodeElements_eq_error_iff.mpr ⟨i, value, hi, by simpa using hvalue, ?_⟩
    intro j hj earlier hget
    obtain ⟨t, ht⟩ := hread j hj earlier hget
    exact ⟨t, (accepts_object (fields_eq_ok_iff numbers) _ earlier t).mpr ht⟩
  cases h with
  | notArray harray herror =>
    cases json with
    | array elements => exact absurd rfl (harray elements)
    | _ => exact congrArg Except.error herror.symm
  | notObject elements i value hjson hi hread hobject herror =>
    subst hjson
    exact helement elements i value hi hread (initFrom_eq_error_iff.mpr (.inl ⟨hobject, herror⟩))
  | property elements i members before key after hjson hi hread hkeys hbefore hfault =>
    subst hjson
    exact helement elements i _ hi hread
      (initFrom_eq_error_iff.mpr (.inr ⟨members, before, key, after, rfl, hkeys, hbefore, hfault⟩))

/-- A document decodes to a list of shows exactly when it is an array of objects
that read as these shows one by one; else it decodes to nothing. -/
theorem shows_decode_iff_reads (numbers : NumberReading N) (json : JSON N) :
    (∀ shows, decodeArray (TVShow.initFrom numbers) [] json = .ok shows ↔
      ReadsShows numbers json shows) ∧
    ∀ shows shows', ReadsShows numbers json shows → ReadsShows numbers json shows' →
      shows = shows' := by
  refine ⟨accepts_shows numbers [] json, fun shows shows' h h' => ?_⟩
  rw [← accepts_shows numbers [] json] at h h'
  exact Except.ok.inj (h.symm.trans h')

def ShowsPath (codingPath : CodingPath) : Prop :=
  codingPath = [] ∨ ∃ i, codingPath = [.index i] ∨
    ∃ (key : TVShow.CodingKeys) (rest : CodingPath),
      codingPath = .index i :: .key key.stringValue :: rest

theorem unexpected_codingPath (codingPath : CodingPath) (value : JSON N) :
    (unexpected codingPath value).codingPath = codingPath := by
  cases value <;> rfl

/-- Decoding fails exactly with the error of the first fault, and that error
names the element and the property and leads from the root of the document to
the value that is at fault. -/
theorem shows_decode_error_iff (numbers : NumberReading N) (json : JSON N)
    (error : DecodingError) :
    (decodeArray (TVShow.initFrom numbers) [] json = .error error ↔
      FirstFault numbers json error) ∧
    (FirstFault numbers json error → ShowsPath error.codingPath ∧
      ∃ fault, json.get? error.codingPath = some fault ∧ error.Explains fault) := by
  refine ⟨⟨firstFault_of_error, error_of_firstFault⟩, fun h => ⟨?_, ?_⟩⟩
  · cases h with
    | notArray harray herror =>
      rw [herror, unexpected_codingPath]
      exact .inl rfl
    | notObject elements i value hjson hi hread hobject herror =>
      rw [herror, unexpected_codingPath]
      exact .inr ⟨i, .inl rfl⟩
    | property elements i members before key after hjson hi hread hkeys hbefore hfault =>
      obtain ⟨rest, hrest⟩ := (fault_located hfault).1
      exact .inr ⟨i, .inr ⟨key, rest, hrest⟩⟩
  · have hlocated : Located (TVShow.initFrom numbers) := by
      refine located_object fun codingPath members failed hfailed => ?_
      have hfirst := errorOf_eq_some_iff.mpr hfailed
      rw [errorOf_fields] at hfirst
      obtain ⟨key, -, hfault⟩ := List.exists_of_findSome?_eq_some hfirst
      exact (fault_located hfault).2
    obtain ⟨path, fault, hpath, hfault, hexplains⟩ :=
      located_array hlocated [] json error (error_of_firstFault h)
    rw [List.nil_append] at hpath
    exact ⟨fault, hpath ▸ hfault, hexplains⟩

end Faults

section Screen
variable {parse : Data → Option (JSON N)} {numbers : NumberReading N}

def ReadsBody (parse : Data → Option (JSON N)) (numbers : NumberReading N) (data : Data)
    (shows : List TVShow) : Prop :=
  ∃ json, parse data = some json ∧ ReadsShows numbers json shows

theorem decodeShows_eq_ok_iff (data : Data) (shows : List TVShow) :
    decodeShows parse numbers data = .ok shows ↔ ReadsBody parse numbers data shows := by
  unfold decodeShows ReadsBody
  cases parse data with
  | none => simp
  | some json =>
    simp only [Option.some.injEq, exists_eq_left']
    rw [← accepts_shows numbers [] json shows]
    cases decodeArray (TVShow.initFrom numbers) [] json <;> simp [Except.mapError]

theorem decodeShows_eq_error {data : Data} {error : SwiftError}
    (h : decodeShows parse numbers data = .error error) :
    ∃ code, error = .nsError "NSCocoaErrorDomain" code ∧ code ≠ NSURLErrorCancelled := by
  have hswift : ∀ failed, ∃ code, toSwiftError failed = .nsError "NSCocoaErrorDomain" code ∧
      code ≠ NSURLErrorCancelled := by
    intro failed
    cases failed with
    | valueNotFound codingPath => exact ⟨4865, rfl, by decide⟩
    | typeMismatch codingPath => exact ⟨4864, rfl, by decide⟩
    | dataCorrupted codingPath => exact ⟨4864, rfl, by decide⟩
  unfold decodeShows at h
  split at h
  · exact Except.error.inj h ▸ hswift _
  · rename_i json hjson
    cases hdecoded : decodeArray (TVShow.initFrom numbers) [] json with
    | ok shows => simp [hdecoded, Except.mapError] at h
    | error failed =>
      simp only [hdecoded, Except.mapError, Except.error.injEq] at h
      exact h ▸ hswift failed

structure BodyDecidesScreen (parse : Data → Option (JSON N)) (numbers : NumberReading N)
    (data : Data) (before after : ShowsScreen) : Prop where
  shown : ∀ shows, ReadsBody parse numbers data shows →
    after.screenState = (if shows = [] then .empty else .populated shows) ∧
      after.currentTVShows = shows ∧ after.alerts = before.alerts
  rejected : (∀ shows, ¬ ReadsBody parse numbers data shows) →
    (∃ code, after.screenState = .error (.nsError "NSCocoaErrorDomain" code)) ∧
      after.currentTVShows = [] ∧
      after.alerts = before.alerts ++ [.retry NetworkError.generic.getMessage]
  retry : 0 < after.retryDialogs ↔ ∀ shows, ¬ ReadsBody parse numbers data shows

theorem mainBlockRuns_screen {decode : Data → Except SwiftError (List TVShow)}
    {s s' : ShowsSystem Data} {i : Nat} {outcome : TaskOutcome Data}
    {rest : List (Nat × TaskOutcome Data)} (hqueue : s.service.mainQueue = (i, outcome) :: rest)
    (h : SystemStep decode s .mainBlockRuns s') :
    s'.screen = s.screen.afterFetch decode outcome := by
  have hstep := h.2
  simp only [ShowsSystem.step, ShowsSystem.mainBlockRuns, hqueue] at hstep
  obtain ⟨_, -, rfl⟩ := Option.map_eq_some_iff.mp hstep
  rfl

/-- Whenever a body arrives, whatever its status, the screen shows its shows if
all of it reads, and else offers a retry with the generic message: no list is
shown in part and no failed body is dropped. -/
theorem body_decides_screen {s s' : ShowsSystem Data} {i : Nat} {data : Data}
    {response : URLResponse} {rest : List (Nat × TaskOutcome Data)}
    (h : Reachable SystemStarted (SystemStep (decodeShows parse numbers)) s)
    (hqueue : s.service.mainQueue = (i, ⟨some data, some response, none⟩) :: rest)
    (hstep : SystemStep (decodeShows parse numbers) s .mainBlockRuns s') :
    BodyDecidesScreen parse numbers data s.screen s'.screen := by
  have hdialogs : s.screen.retryDialogs = 0 :=
    ((FetchingInvariant.reachable h).head hqueue).2.2.1
  rw [mainBlockRuns_screen hqueue hstep]
  cases hdecode : decodeShows parse numbers data with
  | ok shows =>
    have hreads := (decodeShows_eq_ok_iff data shows).mp hdecode
    have hscreen : s.screen.afterFetch (decodeShows parse numbers)
        ⟨some data, some response, none⟩ = s.screen.fetchEnds ⟨some shows, none⟩ := by
      simp [ShowsScreen.afterFetch, fetchCompletion, hdecode]
    have hlist := fetchEnds_list s.screen shows
    have halerts := fetchEnds_alerts s.screen ⟨some shows, none⟩
    have hcount := fetchEnds_retryDialogs s.screen ⟨some shows, none⟩
    rw [hscreen]
    refine ⟨fun shows' hreads' => ?_, fun hnone => absurd hreads (hnone shows), ?_⟩
    · have hsame := (decodeShows_eq_ok_iff data shows').mpr hreads'
      obtain rfl := Except.ok.inj (hdecode.symm.trans hsame)
      exact ⟨hlist.1, hlist.2, by simpa using halerts⟩
    · rw [hcount, hdialogs]
      exact iff_of_false (by simp) fun hnone => hnone shows hreads
  | error error =>
    obtain ⟨code, rfl, -⟩ := decodeShows_eq_error hdecode
    have hnone : ∀ shows, ¬ ReadsBody parse numbers data shows := by
      intro shows hreads
      cases hdecode.symm.trans ((decodeShows_eq_ok_iff data shows).mpr hreads)
    have hscreen : s.screen.afterFetch (decodeShows parse numbers)
        ⟨some data, some response, none⟩ =
          s.screen.fetchEnds (fireErrorCompletion (some (.nsError "NSCocoaErrorDomain" code))) := by
      simp [ShowsScreen.afterFetch, fetchCompletion, hdecode]
    have hcount := fetchEnds_retryDialogs s.screen
      (fireErrorCompletion (some (.nsError "NSCocoaErrorDomain" code)))
    rw [hscreen]
    refine ⟨fun shows hreads => absurd hreads (hnone shows), fun _ => ⟨⟨code, rfl⟩, rfl, rfl⟩, ?_⟩
    rw [hcount, hdialogs]
    exact iff_of_true (by simp [fireErrorCompletion]) hnone

theorem body_decides_screen_bad_id :
    ∃ s s' : ShowsSystem (JSON Int),
      SystemStep (decodeShows some ⟨some, fun _ => none⟩) s .mainBlockRuns s' ∧
      s'.screen.currentTVShows = [] ∧
      BodyDecidesScreen some ⟨some, fun _ => none⟩
        (.array [.object [("id", .number 1)], .object [("id", .string "two")]])
        s.screen s'.screen := by
  have hstart : Reachable SystemStarted (SystemStep (decodeShows some ⟨some, fun _ => none⟩))
      (ShowsSystem.viewDidLoad Realm.empty : ShowsSystem (JSON Int)) := .start ⟨_, rfl⟩
  have hloaded := reachable_systemEvent hstart (.taskFinishes 0 ⟨some (.array
    [.object [("id", .number 1)], .object [("id", .string "two")]]), some (.http 200), none⟩)
    trivial rfl
  have hwaiting := reachable_systemEvent hloaded (.handlerRuns 0) trivial rfl
  exact ⟨_, _, ⟨trivial, rfl⟩, rfl, body_decides_screen hwaiting rfl ⟨trivial, rfl⟩⟩

end Screen

end TVShows
