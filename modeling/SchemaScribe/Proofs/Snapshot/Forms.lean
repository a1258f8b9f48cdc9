import SchemaScribe.Proofs.Association
import SchemaScribe.Proofs.Json.Assembled
import SchemaScribe.Proofs.Snapshot.Loaded

/-!
# The two forms of a snapshot

A sequence of collections can be written as an object, each collection under its name
(`objectForm`), or as an array of collections that say their names themselves (`arrayForm`).  What
is made of a collection does not depend on the form (`decodeParts_namedBody`), and the order is
the same in both, so the forms of collections with different names are loaded with the same outcome.

With a repeated name they part ways (`forms_agree_iff`).  The array is refused, but reading the
object keeps only the last collection of each name, and the check for repeated names, which comes
later, finds none.
-/

namespace SchemaScribe.Snapshot

open Association (ofPairs put)

/-! ### The two forms -/

/-- **A definition of a collection**: its name, and the members of its body.  The values of the
members are texts where it is written, and decoded where it was read. -/
abbrev Definition (α : Type) := Text × List (Text × α)

/-- The members of a body with the name of the collection among them. -/
def Definition.named (c : Definition Text) : List (Text × Text) :=
  if Association.has ("collection" : Text) c.2 then c.2
  else c.2 ++ [(("collection" : Text), Json.quote c.1)]

/-- **The object form**: each collection stands under its name. -/
def objectForm (definitions : List (Definition Text)) : Text :=
  Json.objectText (definitions.map fun c => (c.1, Json.objectText c.2))

/-- **The array form**: each collection says its name. -/
def arrayForm (definitions : List (Definition Text)) : Text :=
  Json.arrayText (definitions.map fun c => Json.objectText c.named)

/-- The body is an object, and if it says a name then that of the collection. -/
structure Definition.IsProper (c : Definition Text) : Prop where
  legible : ∀ member ∈ c.2, Json.IsLegible member.2
  own : ∀ text, Association.get? ("collection" : Text) (ofPairs c.2) = some text →
    Json.read text = .ok (.string c.1)

/-! ### What the forms are read as -/

/-- A definition with the members that its body is read as. -/
def Definition.read (c : Definition Text) : Except Json.ReadError (Definition Json) := do
  let members ← c.2.mapM Json.readMember
  pure (c.1, ofPairs members)

/-- The body of a definition, with the name of the collection set. -/
def namedBody (c : Definition Json) : Json :=
  .object (put "collection" (.string c.1) c.2)

/-- The body says no other name than that of the collection. -/
def OwnsName (c : Definition Json) : Prop :=
  ∀ value, Association.get? ("collection" : Text) c.2 = some value → value = .string c.1

variable {c : Definition Text} {found : Definition Json}

theorem Definition.read_eq_ok_iff :
    c.read = .ok found ↔ c.1 = found.1 ∧
      ∃ members, c.2.mapM Json.readMember = .ok members ∧ ofPairs members = found.2 := by
  rw [Definition.read, bind_eq_ok_iff]
  constructor
  · rintro ⟨members, hmembers, h⟩
    obtain rfl := pure_eq_ok_iff.1 h
    exact ⟨rfl, members, hmembers, rfl⟩
  · rintro ⟨hname, members, hmembers, hfound⟩
    refine ⟨members, hmembers, ?_⟩
    rw [hname, hfound, pure_eq_ok_iff]

theorem key_of_readMember (member : Text × Text) (found : Text × Json)
    (h : Json.readMember member = .ok found) : member.1 = found.1 :=
  (Json.readMember_eq_ok_iff.1 h).1

theorem name_of_read (c : Definition Text) (found : Definition Json)
    (h : c.read = .ok found) : c.1 = found.1 := (Definition.read_eq_ok_iff.1 h).1

/-- Under each key, a body has the text of a value where what it is read as has the value. -/
theorem get?_of_read (h : c.read = .ok found) (key : Text) :
    (Association.get? key (ofPairs c.2) = none ∧ Association.get? key found.2 = none) ∨
      ∃ text value, Association.get? key (ofPairs c.2) = some text ∧
        Association.get? key found.2 = some value ∧ Json.read text = .ok value := by
  obtain ⟨-, members, hmembers, hfound⟩ := Definition.read_eq_ok_iff.1 h
  have hread := mapM_eq_ok_iff.1 (Association.mapM_ofPairs key_of_readMember hmembers)
  rw [← hfound]
  refine (Association.get?_of_forall₂ key_of_readMember hread key).imp_right ?_
  rintro ⟨text, value, htext, hvalue, hmember⟩
  exact ⟨text, value, htext, hvalue, (Json.readMember_eq_ok_iff.1 hmember).2⟩

/-- A body says the name of its collection or none. -/
theorem get?_collection_of_read (hc : c.IsProper) (h : c.read = .ok found) :
    Association.get? ("collection" : Text) found.2 =
      if Association.has ("collection" : Text) c.2 then some (.string c.1) else none := by
  rw [← Association.has_ofPairs, Association.has]
  rcases get?_of_read h "collection" with ⟨hnone, hnone'⟩ | ⟨text, value, htext, hvalue, hread⟩
  · rw [hnone, hnone']
    rfl
  · rw [hc.own text htext] at hread
    rw [htext, hvalue, ← Except.ok.inj hread]
    rfl

/-- A definition that is read as one of its name is proper. -/
theorem isProper_of_read (h : c.read = .ok found) (hown : OwnsName found) : c.IsProper := by
  refine ⟨fun member hmember => ?_, fun text htext => ?_⟩
  -- what is read is legible
  · obtain ⟨-, members, hmembers, -⟩ := Definition.read_eq_ok_iff.1 h
    have hall := exists_forall₂_iff.1 ⟨members, mapM_eq_ok_iff.1 hmembers⟩
    obtain ⟨value, hvalue⟩ := hall member hmember
    exact Json.isLegible_of_read (Json.readMember_eq_ok_iff.1 hvalue).2
  · rcases get?_of_read h "collection" with ⟨hnone, -⟩ | ⟨text', value, htext', hvalue, hread⟩
    · rw [htext] at hnone
      cases hnone
    · rw [htext] at htext'
      obtain rfl := Option.some.inj htext'
      rw [hread, hown value hvalue, name_of_read c found h]

theorem read_objectText_body (hc : c.IsProper) :
    Json.read (Json.objectText c.2) = c.read >>= fun found => pure (Json.object found.2) := by
  rw [Json.read_objectText hc.legible, Definition.read, bind_assoc]
  rfl

/-- Where the body says its name already, setting it changes nothing. -/
theorem namedBody_eq_object (hc : c.IsProper) (h : c.read = .ok found)
    (hhas : Association.has ("collection" : Text) c.2 = true) :
    namedBody found = .object found.2 := by
  have hown := get?_collection_of_read hc h
  rw [if_pos hhas, name_of_read c found h] at hown
  rw [namedBody, Association.put_eq_self hown]

theorem isLegible_of_mem_named (hc : c.IsProper) :
    ∀ member ∈ c.named, Json.IsLegible member.2 := by
  rw [Definition.named]
  split_ifs with hhas
  · exact hc.legible
  · rw [List.forall_mem_append, List.forall_mem_singleton]
    exact ⟨hc.legible, Json.isLegible_of_read (Json.read_quote c.1)⟩

theorem read_objectText_named (hc : c.IsProper) :
    Json.read (Json.objectText c.named) = c.read >>= fun found => pure (namedBody found) := by
  have hlegible := isLegible_of_mem_named hc
  rw [Definition.named] at hlegible ⊢
  split_ifs at hlegible ⊢ with hhas
  · -- the body names its collection already
    rw [read_objectText_body hc]
    cases h : c.read with
    | error fault => rfl
    | ok found =>
      show Except.ok (Json.object found.2) = Except.ok (namedBody found)
      rw [namedBody_eq_object hc h hhas]
  · -- the name is put behind the members of the body
    have hname : Json.readMember (("collection" : Text), Json.quote c.1) =
        .ok ("collection", .string c.1) :=
      Json.readMember_eq_ok_iff.2 ⟨rfl, Json.read_quote c.1⟩
    rw [Json.read_objectText hlegible, List.mapM_append, List.mapM_cons, hname, Definition.read]
    cases c.2.mapM Json.readMember with
    | error fault => rfl
    | ok members =>
      show Except.ok
          (Json.object (ofPairs (members ++ [(("collection" : Text), Json.string c.1)]))) =
        Except.ok (namedBody (c.1, ofPairs members))
      rw [Association.ofPairs_append_singleton, namedBody]

/-! ### What the forms are loaded as -/

variable {definitions : List (Definition Text)}

/-- The object form is loaded as the object that is built up from the bodies. -/
theorem load_objectForm (h : ∀ c ∈ definitions, c.IsProper) :
    load (objectForm definitions) =
      (definitions.mapM Definition.read).mapError LoadFault.ofReadError >>= fun found =>
        decode (.object (ofPairs (found.map fun c => (c.1, Json.object c.2)))) := by
  have hlegible : ∀ member ∈ definitions.map fun c => (c.1, Json.objectText c.2),
      Json.IsLegible member.2 :=
    List.forall_mem_map.2 fun c hc => Json.isLegible_objectText (h c hc).legible
  have hbody : ∀ c ∈ definitions, (Json.readMember ∘ fun c => (c.1, Json.objectText c.2)) c =
      c.read >>= fun found => pure (found.1, Json.object found.2) := by
    intro c hc
    rw [Function.comp_apply, Json.readMember, read_objectText_body (h c hc), Definition.read]
    simp
  rw [load_eq, objectForm, Json.read_objectText hlegible, List.mapM_map, mapM_bind_pure hbody]
  cases definitions.mapM Definition.read <;> rfl

/-- The array form is loaded as the array of the bodies that say their names. -/
theorem load_arrayForm (h : ∀ c ∈ definitions, c.IsProper) :
    load (arrayForm definitions) =
      (definitions.mapM Definition.read).mapError LoadFault.ofReadError >>= fun found =>
        decode (.array (found.map namedBody)) := by
  have hlegible : ∀ item ∈ definitions.map fun c => Json.objectText c.named,
      Json.IsLegible item :=
    List.forall_mem_map.2 fun c hc => Json.isLegible_objectText (isLegible_of_mem_named (h c hc))
  have hbody : ∀ c ∈ definitions, (Json.read ∘ fun c => Json.objectText c.named) c =
      c.read >>= fun found => pure (namedBody found) :=
    fun c hc => read_objectText_named (h c hc)
  rw [load_eq, arrayForm, Json.read_arrayText hlegible, List.mapM_map, mapM_bind_pure hbody]
  cases definitions.mapM Definition.read <;> rfl

/-! ### Decoding the bodies -/

/-- **What is made of a collection does not depend on where its name is said.** -/
theorem decodeParts_namedBody (h : OwnsName found) :
    decodeParts none (namedBody found) = decodeParts (some found.1) (.object found.2) := by
  obtain ⟨name, members⟩ := found
  have hput := Association.get?_put_self ("collection" : Text) (Json.string name) members
  have hother : ∀ key : Text, key ≠ "collection" →
      memberOf key (put "collection" (.string name) members) = memberOf key members := by
    intro key hkey
    rw [memberOf, memberOf, Association.get?_put_of_ne hkey]
  have hname : decodeName none (put "collection" (.string name) members) =
      decodeName (some name) members := by
    rw [decodeName, decodeName, hput]
    cases hc : Association.get? ("collection" : Text) members with
    | none => simp [Json.text?]
    | some value =>
      rw [h value hc]
      simp [Json.text?]
  rw [namedBody, decodeParts, decodeParts, hname, hother "meta" (by decide),
    hother "fields" (by decide)]

theorem decodeDistinct_congr {ε ι κ α : Type} {decodeItem : ι → Except ε α}
    {decodeItem' : κ → Except ε α} (name : α → Text) (repeated : Text → ε) {items : List ι}
    {items' : List κ}
    (h : List.Forall₂ (fun item item' => decodeItem item = decodeItem' item') items items') :
    ∀ seen, decodeDistinct decodeItem name repeated seen items =
      decodeDistinct decodeItem' name repeated seen items' := by
  induction h with
  | nil => intro seen; rfl
  | cons hitem _ ih =>
    intro seen
    rw [decodeDistinct, decodeDistinct, hitem]
    simp only [ih]

/-- Bodies are decoded alike under their names and with their names set. -/
theorem decode_bodies {bodies : List (Definition Json)}
    (h : ∀ found ∈ bodies, OwnsName found) :
    decode (.object (bodies.map fun c => (c.1, Json.object c.2))) =
      decode (.array (bodies.map namedBody)) := by
  have hentries : List.Forall₂ (fun entry entry' : Option Text × Json =>
      decodeCollection entry.1 entry.2 = decodeCollection entry'.1 entry'.2)
      (bodies.map fun c => (some c.1, Json.object c.2))
      (bodies.map fun c => (none, namedBody c)) := by
    rw [List.forall₂_map_left_iff, List.forall₂_map_right_iff, List.forall₂_same]
    intro found hfound
    rw [decodeCollection_eq, decodeCollection_eq, decodeParts_namedBody (h found hfound)]
  have hdistinct := decodeDistinct_congr (·.name)
    (fun name => LoadFault.snapshot (.duplicateCollection name)) hentries []
  -- the check for repeated names is the same one for both
  simp only [decode, entries?, decodeEntries, List.map_map]
  exact congrArg (· >>= _) hdistinct

/-- A body with its name set is decoded to a collection of that name. -/
theorem name_of_decodeParts_namedBody {parts : Collection}
    (h : decodeParts none (namedBody found) = .ok parts) : parts.name = found.1 := by
  obtain ⟨hname, -⟩ := decodeParts_eq_ok_iff.1 h
  obtain ⟨hown | ⟨-, hkey⟩, -⟩ := decodeName_eq_ok_iff.1 hname
  · rw [Association.get?_put_self] at hown
    exact (Json.string.inj (Option.some.inj hown)).symm
  · cases hkey

/-- An array of bodies is refused where two of them have the same name. -/
theorem nodup_of_decode_namedBody {bodies : List (Definition Json)}
    {schema : Schema} (h : decode (.array (bodies.map namedBody)) = .ok schema) :
    (bodies.map Prod.fst).Nodup := by
  obtain ⟨entries, hentries, hall, hnodup⟩ := decode_eq_ok_iff.1 h
  obtain rfl := Option.some.inj hentries
  rw [List.map_map, List.forall₂_map_left_iff] at hall
  have hnames : bodies.map Prod.fst = schema.names := by
    rw [Schema.names, ← List.forall₂_eq_eq_eq, List.forall₂_map_left_iff,
      List.forall₂_map_right_iff]
    exact hall.imp fun found parts hparts => (name_of_decodeParts_namedBody hparts).symm
  rw [hnames]
  exact hnodup

/-! ### Loading the two forms -/

variable {bodies : List (Definition Json)}

theorem names_of_mapM_read (h : definitions.mapM Definition.read = .ok bodies) :
    definitions.map Prod.fst = bodies.map Prod.fst := by
  have hall := mapM_eq_ok_iff.1 h
  rw [← List.forall₂_eq_eq_eq, List.forall₂_map_left_iff, List.forall₂_map_right_iff]
  exact hall.imp name_of_read

theorem isProper_of_mapM_read (h : definitions.mapM Definition.read = .ok bodies)
    (hown : ∀ found ∈ bodies, OwnsName found) : ∀ c ∈ definitions, c.IsProper := by
  have hall := mapM_eq_ok_iff.1 h
  clear h
  induction hall with
  | nil => simp
  | cons hread _ ih =>
    rw [List.forall_mem_cons] at hown ⊢
    exact ⟨isProper_of_read hread hown.1, ih hown.2⟩

theorem ownsName_of_mapM_read (hproper : ∀ c ∈ definitions, c.IsProper)
    (h : definitions.mapM Definition.read = .ok bodies) : ∀ found ∈ bodies, OwnsName found := by
  intro found hfound value hvalue
  have hall := (List.forall₂_and_left _ _).2 ⟨hproper, mapM_eq_ok_iff.1 h⟩
  obtain ⟨c, hc, hread⟩ := exists_item_of_forall₂ hall hfound
  rw [get?_collection_of_read hc hread] at hvalue
  split_ifs at hvalue
  rw [← Option.some.inj hvalue, name_of_read c found hread]

/-- **The forms of collections with different names have the same outcome**, whatever it is. -/
theorem load_objectForm_eq (hproper : ∀ c ∈ definitions, c.IsProper)
    (hnodup : (definitions.map Prod.fst).Nodup) :
    load (objectForm definitions) = load (arrayForm definitions) := by
  rw [load_objectForm hproper, load_arrayForm hproper]
  cases h : definitions.mapM Definition.read with
  | error fault => rfl
  | ok bodies =>
    have hkeys : (Association.keys (bodies.map fun c => (c.1, Json.object c.2))).Nodup := by
      rw [names_of_mapM_read h] at hnodup
      rw [Association.keys, List.map_map]
      exact hnodup
    -- with distinct keys the object has all of the bodies
    have hbodies := decode_bodies (ownsName_of_mapM_read hproper h)
    rw [← Association.ofPairs_eq_self hkeys] at hbodies
    exact hbodies

/-- **The array form of collections with a repeated name is refused.** -/
theorem nodup_of_load_arrayForm (hproper : ∀ c ∈ definitions, c.IsProper) {schema : Schema}
    (h : load (arrayForm definitions) = .ok schema) : (definitions.map Prod.fst).Nodup := by
  rw [load_arrayForm hproper] at h
  obtain ⟨bodies, hbodies, h⟩ := bind_eq_ok_iff.1 h
  rw [names_of_mapM_read (mapError_eq_ok_iff.1 hbodies)]
  exact nodup_of_decode_namedBody h

/-- **In the object form only the last collection of each name counts.** -/
theorem load_objectForm_eq_ofPairs (hproper : ∀ c ∈ definitions, c.IsProper)
    (hread : ∀ c ∈ definitions, ∃ found, c.read = .ok found) :
    load (objectForm definitions) = load (arrayForm (ofPairs definitions)) := by
  have hlast : ∀ c : Definition Text, c ∈ ofPairs definitions → c.IsProper :=
    fun c hc => hproper c (Association.mem_of_mem_ofPairs hc)
  obtain ⟨bodies, hall⟩ := exists_forall₂_iff.2 hread
  have hbodies := mapM_eq_ok_iff.2 hall
  rw [← load_objectForm_eq hlast (Association.nodup_keys_ofPairs definitions),
    load_objectForm hproper, load_objectForm hlast, hbodies,
    Association.mapM_ofPairs name_of_read hbodies]
  show decode (.object (ofPairs (bodies.map fun c => (c.1, Json.object c.2)))) =
    decode (.object (ofPairs ((ofPairs bodies).map fun c => (c.1, Json.object c.2))))
  rw [← Association.ofPairs_map, Association.ofPairs_ofPairs]

/-- What the object form is loaded as, it is loaded as from the last collection of each name. -/
theorem load_ofPairs_of_load_objectForm (hproper : ∀ c ∈ definitions, c.IsProper) {schema : Schema}
    (h : load (objectForm definitions) = .ok schema) :
    load (arrayForm (ofPairs definitions)) = .ok schema := by
  have hload := h
  rw [load_objectForm hproper] at hload
  obtain ⟨bodies, hbodies, -⟩ := bind_eq_ok_iff.1 hload
  have hread : ∀ c ∈ definitions, ∃ found, c.read = .ok found :=
    exists_forall₂_iff.1 ⟨bodies, mapM_eq_ok_iff.1 (mapError_eq_ok_iff.1 hbodies)⟩
  rw [← load_objectForm_eq_ofPairs hproper hread, h]

/-- **When the two forms agree.**  Collections with different names have the same outcome in both
forms, fault for fault.  With a repeated name the array form is refused, while the object form is
loaded as what the last collections of each name are loaded as.  So the forms give the same schemas
exactly when the names differ, or when the object form gives none. -/
theorem forms_agree_iff (hproper : ∀ c ∈ definitions, c.IsProper) :
    ((definitions.map Prod.fst).Nodup →
      load (objectForm definitions) = load (arrayForm definitions)) ∧
    (¬ (definitions.map Prod.fst).Nodup → ∀ schema, load (arrayForm definitions) ≠ .ok schema) ∧
    (∀ schema, load (objectForm definitions) = .ok schema →
      load (arrayForm (ofPairs definitions)) = .ok schema) ∧
    ((∀ schema, load (objectForm definitions) = .ok schema ↔
        load (arrayForm definitions) = .ok schema) ↔
      (definitions.map Prod.fst).Nodup ∨ ∀ schema, load (objectForm definitions) ≠ .ok schema) := by
  have hsame := load_objectForm_eq hproper
  have hrefused : ¬ (definitions.map Prod.fst).Nodup →
      ∀ schema, load (arrayForm definitions) ≠ .ok schema :=
    fun hrepeated _ hload => hrepeated (nodup_of_load_arrayForm hproper hload)
  refine ⟨hsame, hrefused, fun _ => load_ofPairs_of_load_objectForm hproper, ?_⟩
  -- with a name repeated the array is refused, so both agree only if the object is as well
  by_cases hnodup : (definitions.map Prod.fst).Nodup
  · rw [hsame hnodup]
    exact iff_of_true (fun _ => Iff.rfl) (Or.inl hnodup)
  · have hnone := hrefused hnodup
    constructor
    · intro hagree
      exact Or.inr fun schema hload => hnone schema ((hagree schema).1 hload)
    · rintro (h | hobject) schema
      · exact absurd h hnodup
      · exact iff_of_false (hobject schema) (hnone schema)

/-- Two collections, one of which says its name itself. -/
def discography : List (Definition Text) :=
  [("songs", [("fields", "[\x7b\"field\":\"x\"\x7d]")]), ("bands", [("collection", "\"bands\"")])]

theorem forms_agree_of_discography :
    (∀ c ∈ discography, c.IsProper) ∧
      load (objectForm discography) = load (arrayForm discography) ∧
      load (arrayForm discography) =
        .ok ⟨[⟨"songs", false, [{ name := "x", type := "string" }]⟩, ⟨"bands", false, []⟩]⟩ := by
  have hread : discography.mapM Definition.read = .ok [
      ("songs", [("fields", .array [.object [("field", .string "x")]])]),
      ("bands", [("collection", .string "bands")])] := by decide +kernel
  have hproper := isProper_of_mapM_read hread (by simp [OwnsName, Association.get?])
  exact ⟨hproper, (forms_agree_iff hproper).1 (by decide +kernel),
    by decide +kernel⟩

/-- Two collections of one name, the second without the field of the first. -/
def twice : List (Definition Text) := [("a", [("fields", "[\x7b\"field\":\"x\"\x7d]")]), ("a", [])]

/-- The first of the two is dropped without a word where they stand in an object. -/
theorem forms_disagree_of_twice :
    objectForm twice = "\x7b\"a\":\x7b\"fields\":[\x7b\"field\":\"x\"\x7d]\x7d,\"a\":\x7b\x7d\x7d" ∧
      (∀ c ∈ twice, c.IsProper) ∧
      load (objectForm twice) = .ok ⟨[⟨"a", false, []⟩]⟩ ∧
      load (arrayForm twice) = .error (.snapshot (.duplicateCollection "a")) := by
  have hread : twice.mapM Definition.read = .ok [
      ("a", [("fields", .array [.object [("field", .string "x")]])]), ("a", [])] :=
    by decide +kernel
  have hproper := isProper_of_mapM_read hread (by simp [OwnsName, Association.get?])
  exact ⟨by decide +kernel, hproper, by decide +kernel, by decide +kernel⟩

end SchemaScribe.Snapshot
