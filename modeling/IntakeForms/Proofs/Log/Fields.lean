import IntakeForms.Log.Line

/-! What a line tells of its record.  Facts come in behind the fields that the record fills itself
and take the place of a field of their name; what was thrown comes last.  So a line is true to its
record exactly when every fact with the name of a field has the value of that field.  The message
and the module no fact can take: these are names of attributes as well. -/

namespace IntakeForms

namespace Json

variable {style : Style} {b : Bounds}

mutual

theorem obstacleIn?_of_document : ∀ (v : Value) (room : Nat), v.isDocument = true →
    obstacleIn? style b room v ≠ some .formless
  | .int n, _, _ => by
    rw [obstacleIn?, wholeObstacle?]
    split <;> simp
  | .list items, 0, _ => by simp [obstacleIn?]
  | .list items, room + 1, h => by
    rw [obstacleIn?]
    exact itemsObstacle?_of_documents items room (by simpa [Value.isDocument] using h)
  | .map entries, 0, _ => by simp [obstacleIn?]
  | .map entries, room + 1, h => by
    rw [obstacleIn?]
    exact entriesObstacle?_of_documents entries room (by simpa [Value.isDocument] using h)
  | .null, _, _ | .bool _, _, _ | .real _, _, _ | .text _, _, _ => by simp [obstacleIn?]
  | .moment _, _, h | .foreign _, _, h => by simp [Value.isDocument] at h

theorem itemsObstacle?_of_documents : ∀ (items : List Value) (room : Nat),
    Value.documents items = true → itemsObstacle? style b room items ≠ some .formless
  | [], _, _ => by simp [itemsObstacle?]
  | v :: rest, room, h => by
    rw [Value.documents, Bool.and_eq_true] at h
    rw [itemsObstacle?, ne_eq, Option.or_eq_some_iff, not_or, not_and]
    exact ⟨obstacleIn?_of_document v room h.1, fun _ => itemsObstacle?_of_documents rest room h.2⟩

theorem entriesObstacle?_of_documents : ∀ (entries : List (Key × Value)) (room : Nat),
    Value.documentEntries entries = true → entriesObstacle? style b room entries ≠ some .formless
  | [], _, _ => by simp [entriesObstacle?]
  | (k, v) :: rest, room, h => by
    cases k with
    | text s =>
      rw [Value.documentEntries, Bool.and_eq_true, Bool.and_eq_true] at h
      rw [entriesObstacle?, keyObstacle?_text, Option.none_or, ne_eq, Option.or_eq_some_iff, not_or,
        not_and]
      exact ⟨obstacleIn?_of_document v room h.1.1,
        fun _ => entriesObstacle?_of_documents rest room h.2⟩
    | _ => simp [Value.documentEntries] at h

end

theorem obstacle?_object {fields : List (String × Value)}
    (h : ∀ field ∈ fields, field.2.isDocument = true) :
    obstacle? style b (.object fields) ≠ some .formless := by
  rw [obstacle?, Value.object]
  cases b.depth with
  | zero => simp [obstacleIn?]
  | succ room =>
    rw [obstacleIn?]
    induction fields with
    | nil => simp [entriesObstacle?]
    | cons field rest ih =>
      rw [List.forall_mem_cons] at h
      rw [List.map_cons, entriesObstacle?, keyObstacle?_text, Option.none_or, ne_eq,
        Option.or_eq_some_iff, not_or, not_and]
      exact ⟨obstacleIn?_of_document _ _ h.1, fun _ => ih h.2⟩

theorem obstacle?_object_eq_none {digits room : Nat} {fields : List (String × Value)}
    (h : ∀ field ∈ fields, obstacleIn? style ⟨digits, room + 1⟩ room field.2 = none) :
    obstacle? style ⟨digits, room + 1⟩ (.object fields) = none := by
  rw [obstacle?, Value.object, obstacleIn?]
  induction fields with
  | nil => rfl
  | cons field rest ih =>
    rw [List.forall_mem_cons] at h
    rw [List.map_cons, entriesObstacle?, keyObstacle?_text, Option.none_or, h.1, Option.none_or]
    exact ih h.2

end Json

namespace Log.Record

/-- The facts that a record can be given: documents, each under a name of its own that is not the
name of an attribute. -/
structure Admitted (r : Record) : Prop where
  distinct : (Entries.keys r.facts).Nodup
  outside : ∀ name ∈ Entries.keys r.facts, name ∉ attributes
  documents : ∀ fact ∈ r.facts, fact.2.isDocument = true

def own (r : Record) (moment : Timestamp) (message id : String) : List (String × Value) :=
  [("timestamp", .text (moment.isoPlain 'T')), ("severity", .text r.level.name),
    ("message", .text message), ("logger", .text r.logger), ("module", .text (moduleOf r.file)),
    ("function", .optText r.function), ("line", .int r.line), ("request_id", .text id)]

def described (r : Record) : List (String × Value) :=
  r.thrown.toList.map fun text => ("exception", .text text)

def visible (r : Record) : List (String × Value) :=
  r.facts.filter fun fact => !isHidden fact.1

/-- The fields of the line. -/
def written (r : Record) (moment : Timestamp) (message id : String) : List (String × Value) :=
  Entries.putAll (r.own moment message id) (r.visible ++ r.described)

/-- The fields tell what the record has to say: the standard ones are its own, and every other
fact is there as it is, unless its name begins with a low line. -/
structure ToldBy (r : Record) (moment : Timestamp) (message id : String)
    (fields : List (String × Value)) : Prop where
  standard : ∀ field ∈ r.own moment message id, Entries.get? field.1 fields = some field.2
  facts : ∀ fact ∈ r.facts, fact.1 ∉ Entries.keys (r.own moment message id) →
    fact.1.toList.head? ≠ some '_' → Entries.get? fact.1 fields = some fact.2

def Agrees (r : Record) (moment : Timestamp) (message id : String) : Prop :=
  ∀ fact ∈ r.facts, ∀ v, (fact.1, v) ∈ r.own moment message id ++ r.described → v = fact.2

variable {b : Json.Bounds} {r : Record} {moment : Timestamp} {message id : String}

theorem Admitted.get?_eq_none (admitted : r.Admitted) {name : String} (h : name ∈ attributes) :
    Entries.get? name r.facts = none :=
  Entries.get?_eq_none_iff.2 fun hmem => admitted.outside name hmem h

theorem Admitted.replaced (admitted : r.Admitted) {name : String} (h : name ∈ attributes)
    (own : Value) : r.replaced name own = own := by
  rw [Record.replaced, admitted.get?_eq_none h, Option.getD_none]

theorem Admitted.values (admitted : r.Admitted) : r.values = .ofList r.arguments := by
  rw [Record.values, admitted.get?_eq_none (by simp [attributes])]

theorem Admitted.thrownField (admitted : r.Admitted) : r.thrownField = .ok r.described := by
  rw [Record.thrownField, described]
  cases r.thrown with
  | some t => rfl
  | none =>
    rw [admitted.replaced (by simp [attributes])]
    rfl

theorem Admitted.fields (admitted : r.Admitted) (hid : id ≠ "") :
    Log.fields b r (some id) = (do
      let moment ← momentOf r.created
      let message ← Log.message b r.pattern (.ofList r.arguments)
      return r.written moment message id) := by
  have pattern : r.patternText b = .ok r.pattern := by
    rw [patternText, admitted.replaced (by simp [attributes])]
    rfl
  have hempty : id.isEmpty = false := by simpa [← Bool.not_eq_true, String.isEmpty_iff] using hid
  have named : ∀ name ∈ attributes, ∀ own, r.replaced name own = own :=
    fun _ h own => admitted.replaced h own
  simp only [attributes, List.forall_mem_cons] at named
  simp only [Log.fields, named, admitted.values, admitted.thrownField, pattern, hempty]
  rfl

theorem isDocument_of_mem_own {field : String × Value} (h : field ∈ r.own moment message id) :
    field.2.isDocument = true := by
  have function : (Value.optText r.function).isDocument = true := by
    cases r.function <;> rfl
  revert field
  simp [own, Value.isDocument, function]

theorem Admitted.isDocument_written (admitted : r.Admitted) :
    ∀ field ∈ r.written moment message id, field.2.isDocument = true := by
  intro field hfield
  rcases Entries.mem_putAll hfield with hown | hmore
  · exact isDocument_of_mem_own hown
  · rcases List.mem_append.1 hmore with hfact | hthrown
    · exact admitted.documents field (List.mem_filter.1 hfact).1
    · obtain ⟨text, -, rfl⟩ := List.mem_map.1 hthrown
      rfl

theorem Admitted.line (admitted : r.Admitted) (hid : id ≠ "") :
    Log.line b r (some id) = (do
      let moment ← momentOf r.created
      let message ← Log.message b r.pattern (.ofList r.arguments)
      (Json.text? .line b (.object (r.written moment message id))).mapError unfit) := by
  rw [Log.line, admitted.fields hid]
  cases momentOf r.created with
  | error u => rfl
  | ok moment => cases Log.message b r.pattern (.ofList r.arguments) <;> rfl

theorem Admitted.line_eq (admitted : r.Admitted) (hid : id ≠ "")
    (hmoment : momentOf r.created = .ok moment)
    (hmessage : Log.message b r.pattern (.ofList r.arguments) = .ok message)
    (hobstacle : Json.obstacle? .line b (.object (r.written moment message id)) = none) :
    Log.line b r (some id) = .ok (Json.text .line (.object (r.written moment message id))) := by
  rw [admitted.line hid, hmoment, hmessage]
  simp only [bind, Except.bind, Json.text?, hobstacle]
  rfl

theorem Admitted.nodup_visible (admitted : r.Admitted) : (Entries.keys r.visible).Nodup :=
  admitted.distinct.sublist (List.filter_sublist.map Prod.fst)

theorem nodup_described : (Entries.keys r.described).Nodup := by
  rw [described]
  cases r.thrown <;> simp [Entries.keys]

theorem nodup_own : (Entries.keys (r.own moment message id)).Nodup := by
  simp [Entries.keys, own]

theorem get?_described {name : String} (h : name ≠ "exception") :
    Entries.get? name r.described = none := by
  refine Entries.get?_eq_none_iff.2 fun hmem => h ?_
  obtain ⟨field, hfield, rfl⟩ := List.mem_map.1 hmem
  obtain ⟨t, -, rfl⟩ := List.mem_map.1 hfield
  rfl

theorem Admitted.get?_written (admitted : r.Admitted) (name : String) :
    Entries.get? name (r.written moment message id) = (Entries.get? name r.described).or
      ((Entries.get? name r.visible).or (Entries.get? name (r.own moment message id))) := by
  rw [written, Entries.putAll_append, Entries.get?_putAll nodup_described,
    Entries.get?_putAll admitted.nodup_visible]

theorem Admitted.get?_visible (admitted : r.Admitted) {fact : String × Value}
    (hfact : fact ∈ r.facts) (hline : fact.1.toList.head? ≠ some '_') :
    Entries.get? fact.1 r.visible = some fact.2 := by
  have outside := admitted.outside fact.1 (List.mem_map_of_mem hfact)
  refine Entries.get?_of_mem admitted.nodup_visible (List.mem_filter.2 ⟨hfact, ?_⟩)
  simp [isHidden, outside, hline]

theorem Admitted.get?_written_of_fact (admitted : r.Admitted) {fact : String × Value}
    (hfact : fact ∈ r.facts) (hline : fact.1.toList.head? ≠ some '_') :
    Entries.get? fact.1 (r.written moment message id) =
      (Entries.get? fact.1 r.described).or (some fact.2) := by
  rw [admitted.get?_written, admitted.get?_visible hfact hline]
  rfl

theorem mem_facts_of_get?_visible {name : String} {v : Value}
    (h : Entries.get? name r.visible = some v) : (name, v) ∈ r.facts :=
  (List.mem_filter.1 (Entries.mem_of_get? h)).1

theorem name_of_mem_own {field : String × Value} (h : field ∈ r.own moment message id) :
    field.1 ≠ "exception" ∧ field.1.toList.head? ≠ some '_' := by
  revert field
  simp only [own, List.forall_mem_cons]
  decide

theorem Admitted.get?_written_of_attribute (admitted : r.Admitted) {name : String} {v : Value}
    (h : (name, v) ∈ r.own moment message id) (hname : name ∈ attributes) :
    Entries.get? name (r.written moment message id) = some v := by
  have hidden : Entries.get? name r.visible = none :=
    Option.eq_none_iff_forall_ne_some.2 fun u hu =>
      admitted.outside name (List.mem_map.2 ⟨_, mem_facts_of_get?_visible hu, rfl⟩) hname
  rw [admitted.get?_written, get?_described (name_of_mem_own h).1, hidden]
  exact Entries.get?_of_mem nodup_own h

theorem Admitted.agrees_of_toldBy (admitted : r.Admitted)
    (told : r.ToldBy moment message id (r.written moment message id)) :
    r.Agrees moment message id := by
  intro fact hfact v hv
  rcases List.mem_append.1 hv with hown | hthrown
  · obtain ⟨hname, hline⟩ := name_of_mem_own hown
    have stands : Entries.get? fact.1 (r.written moment message id) = _ :=
      admitted.get?_written_of_fact hfact hline
    rw [told.standard _ hown, get?_described hname] at stands
    exact Option.some.inj stands
  · obtain ⟨t, -, heq⟩ := List.mem_map.1 hthrown
    have hname : fact.1 = "exception" := (congrArg Prod.fst heq).symm
    have hline : fact.1.toList.head? ≠ some '_' := by rw [hname]; decide
    have apart : fact.1 ∉ Entries.keys (r.own moment message id) := by
      simp [hname, Entries.keys, own]
    have stands : Entries.get? fact.1 (r.written moment message id) = _ :=
      admitted.get?_written_of_fact hfact hline
    rw [told.facts fact hfact apart hline, Entries.get?_of_mem nodup_described hthrown] at stands
    exact (Option.some.inj stands).symm

theorem Admitted.toldBy_of_agrees (admitted : r.Admitted) (agrees : r.Agrees moment message id) :
    r.ToldBy moment message id (r.written moment message id) where
  standard := by
    intro field hfield
    rw [admitted.get?_written, get?_described (name_of_mem_own hfield).1]
    cases hfact : Entries.get? field.1 r.visible with
    | none => exact Entries.get?_of_mem nodup_own hfield
    | some v =>
      have same := agrees _ (mem_facts_of_get?_visible hfact) field.2
        (List.mem_append_left _ hfield)
      exact congrArg some same.symm
  facts := by
    intro fact hfact _ hline
    rw [admitted.get?_written_of_fact hfact hline]
    cases hthrown : Entries.get? fact.1 r.described with
    | none => rfl
    | some v =>
      have same := agrees fact hfact v (List.mem_append_right _ (Entries.mem_of_get? hthrown))
      exact congrArg some same

/-- What a line has in it, whatever the facts: each name once, the message and the module of the
record, and all that the record has to say exactly when the facts agree with it. -/
structure Carries (r : Record) (moment : Timestamp) (message id : String)
    (fields : List (String × Value)) : Prop where
  distinct : (Entries.keys fields).Nodup
  ownMessage : Entries.get? "message" fields = some (.text message)
  ownModule : Entries.get? "module" fields = some (.text (moduleOf r.file))
  told_iff : r.ToldBy moment message id fields ↔ r.Agrees moment message id

theorem Admitted.carries (admitted : r.Admitted) :
    r.Carries moment message id (r.written moment message id) where
  distinct := Entries.keys_putAll_nodup nodup_own
  ownMessage := admitted.get?_written_of_attribute (by simp [own]) (by simp [attributes])
  ownModule := admitted.get?_written_of_attribute (by simp [own]) (by simp [attributes])
  told_iff := ⟨admitted.agrees_of_toldBy, admitted.toldBy_of_agrees⟩

/-- A record has a line exactly when it has a moment and a message, and nothing stands in the way
of its fields, as only their size can.  The line is true to the record exactly when no fact has the
name of one of its fields with another value. -/
theorem line_true_iff (b : Json.Bounds) (admitted : r.Admitted) (hid : id ≠ "") :
    ((∃ text, Log.line b r (some id) = .ok text) ↔ ∃ moment message,
      momentOf r.created = .ok moment ∧
      Log.message b r.pattern (.ofList r.arguments) = .ok message ∧
      Json.obstacle? .line b (.object (r.written moment message id)) = none) ∧
    (∀ moment message,
      Json.obstacle? .line b (.object (r.written moment message id)) ≠ some .formless) ∧
    ∀ text, Log.line b r (some id) = .ok text → ∃ moment message fields,
      momentOf r.created = .ok moment ∧
      Log.message b r.pattern (.ofList r.arguments) = .ok message ∧
      text = Json.text .line (.object fields) ∧ r.Carries moment message id fields := by
  have sized : ∀ moment message,
      Json.obstacle? .line b (.object (r.written moment message id)) ≠ some .formless :=
    fun moment message => Json.obstacle?_object admitted.isDocument_written
  rw [admitted.line hid]
  cases hmoment : momentOf r.created with
  | error u => exact ⟨by simp [bind, Except.bind], sized, fun text h => by cases h⟩
  | ok moment =>
    cases hmessage : Log.message b r.pattern (.ofList r.arguments) with
    | error u => exact ⟨by simp [bind, Except.bind], sized, fun text h => by cases h⟩
    | ok message =>
      simp only [bind, Except.bind, Json.text?]
      cases hobstacle : Json.obstacle? .line b (.object (r.written moment message id)) with
      | some u =>
        refine ⟨iff_of_false ?_ (by simp [hobstacle]), sized, fun text h => by cases h⟩
        rintro ⟨text, h⟩
        cases h
      | none =>
        refine ⟨iff_of_true ⟨_, rfl⟩ ⟨_, _, rfl, rfl, hobstacle⟩, sized, fun text h => ?_⟩
        exact ⟨moment, message, _, rfl, rfl, (Except.ok.inj h).symm, admitted.carries⟩

def notice (facts : List (String × Value)) : Record :=
  { logger := "intake_flow.intake_service", level := .info, file := "intake_service.py"
    line := 110, function := some "publish", pattern := "Published %s"
    arguments := [.text "intake"], created := .int 1704067200, facts := facts, thrown := none }

theorem admitted_notice {name : String} {v : Value} (hname : name ∉ attributes)
    (hv : v.isDocument = true) : (notice [(name, v)]).Admitted where
  distinct := by simp [Entries.keys, notice]
  outside := by simpa [Entries.keys, notice] using hname
  documents := by simpa [notice] using hv

theorem obstacle?_notice (name s message : String) (moment : Timestamp) (id : String) :
    Json.obstacle? .line ⟨4300, 980⟩
      (.object ((notice [(name, .text s)]).written moment message id)) = none := by
  have digits : ¬4300 < digitCount 110 := by decide +kernel
  have own : ∀ field ∈ (notice [(name, .text s)]).own moment message id,
      Json.obstacleIn? .line ⟨4300, 980⟩ 979 field.2 = none := by
    simp [own, notice, Json.obstacleIn?, Json.wholeObstacle?, Value.optText, Value.optional, digits]
  have hall : ∀ field ∈ (notice [(name, .text s)]).written moment message id,
      Json.obstacleIn? .line ⟨4300, 980⟩ 979 field.2 = none := by
    intro field hfield
    rcases Entries.mem_putAll hfield with hown | hmore
    · exact own field hown
    · have hfact : field ∈ (notice [(name, .text s)]).visible := by
        simpa [described, notice] using hmore
      rw [List.mem_singleton.1 (List.mem_filter.1 hfact).1]
      simp [Json.obstacleIn?]
  exact Json.obstacle?_object_eq_none hall

theorem line_true_iff_notice :
    (notice [("intake_id", .text "intake_1")]).Admitted ∧ "req-1" ≠ "" ∧
      ∃ text, Log.line ⟨4300, 980⟩ (notice [("intake_id", .text "intake_1")]) (some "req-1") =
          .ok text ∧
        ∃ moment message fields, text = Json.text .line (.object fields) ∧
          (notice [("intake_id", .text "intake_1")]).ToldBy moment message "req-1" fields := by
  have admitted : (notice [("intake_id", .text "intake_1")]).Admitted :=
    admitted_notice (by decide) rfl
  have hid : "req-1" ≠ "" := by decide
  obtain ⟨writes, -, carried⟩ := line_true_iff ⟨4300, 980⟩ admitted hid
  obtain ⟨text, htext⟩ := writes.2 ⟨_, _, rfl, rfl, obstacle?_notice _ _ _ _ _⟩
  obtain ⟨moment, message, fields, -, -, hfields, carries⟩ := carried text htext
  refine ⟨admitted, hid, text, htext, moment, message, fields, hfields, carries.told_iff.2 ?_⟩
  simp [Agrees, notice, own, described]

def forged : Record := notice [("severity", .text "CRITICAL")]

/-- The fact is what the line tells of the level. -/
theorem severity_forged : forged.Admitted ∧ forged.level.name = "INFO" ∧
    ∃ fields, Log.line ⟨4300, 980⟩ forged (some "req-1") =
        .ok (Json.text .line (.object fields)) ∧
      Entries.get? "severity" fields = some (.text "CRITICAL") ∧
      ∀ moment message, ¬ forged.ToldBy moment message "req-1" fields := by
  have admitted : forged.Admitted := admitted_notice (by decide) rfl
  have severity : Entries.get? "severity" (forged.written ⟨2024, 1, 1, 0, 0, 0, 0, some 0⟩
      "Published intake" "req-1") = some (.text "CRITICAL") :=
    admitted.get?_written_of_fact List.mem_cons_self (by decide)
  refine ⟨admitted, rfl, _, ?_, severity, fun moment message told => ?_⟩
  · have obstacle := obstacle?_notice "severity" "CRITICAL" "Published intake"
      ⟨2024, 1, 1, 0, 0, 0, 0, some 0⟩ "req-1"
    exact admitted.line_eq (by decide) rfl rfl obstacle
  · have own := told.standard ("severity", .text "INFO")
      (List.mem_cons_of_mem _ List.mem_cons_self)
    simpa using severity.symm.trans own

end Log.Record

end IntakeForms
