import Narrowing.Proofs.Reading.Records
import Narrowing.Proofs.Run.Scope
import Narrowing.Proofs.Ty.Reference
import Narrowing.Reading.Check

/-!
# Reading checks

A check can be written as an object in many ways: its members may come in any order, what may be
absent may be left out or written as such, and other members may stand among them. However it is
written, it is read, and so are the checks that it guards, to any depth.
-/

namespace Narrowing

/-- The value of what may be absent. -/
def Json.Value.ofOption {α : Type} (write : α → Json.Value) : Option α → Json.Value
  | none => .null
  | some content => write content

namespace TypeRef

mutual

/-- The value that a reference is written as. -/
def toValue : TypeRef → Json.Value
  | .named name => .string name
  | .union members => .array (toValues members)

/-- The values that references are written as. -/
def toValues : List TypeRef → List Json.Value
  | [] => []
  | member :: rest => member.toValue :: toValues rest

end

/-- A reference is made of what it is written as. -/
theorem ofValue_toValue (reference : TypeRef) : ofValue reference.toValue = .ok reference := by
  induction reference using TypeRef.induction with
  | named name => simp only [toValue, ofValue]
  | union members ih =>
    have hmembers : ofValues (toValues members) = .ok members := by
      induction members with
      | nil => simp only [toValues, ofValues]
      | cons member rest ihRest =>
        rw [toValues, ofValues, ih member List.mem_cons_self, ok_bind,
          ihRest fun other hother => ih other (List.mem_cons_of_mem member hother)]
        rfl
    rw [toValue, ofValue, hmembers]
    rfl

theorem reads_toValue (reference : TypeRef) : reader.Reads reference.toValue reference :=
  Reader.reads_of_take reference.ofValue_toValue

theorem toValue_ne_null (reference : TypeRef) : reference.toValue ≠ .null := by
  cases reference <;> simp [toValue]

end TypeRef

/-- The members of an object write a subject: its symbol and its type, each of which may be left
out or be `null` if it is not there. -/
def Subject.WrittenIn (subject : Subject) (members : List (String × Json.Value)) : Prop :=
  Json.Member members "symbol" (· = .ofOption .string subject.symbol?) (subject.symbol? = none) ∧
    Json.Member members "type" (· = .ofOption TypeRef.toValue subject.type?) (subject.type? = none)

namespace Check

mutual

/-- An object writes a check: it has the tag and the fields of the check, each of them once and in
any order, and perhaps other members. -/
def WrittenAs : Check → Json.Value → Prop
  | .assign symbol type, value => ∃ members, value = .object members ∧
    Json.GivenOnce ["op", "symbol", "type"] members ∧
    Json.Member members "op" (· = .string "assign") False ∧
    Json.Member members "symbol" (· = .string symbol) False ∧
    Json.Member members "type" (· = type.toValue) False
  | .test subject target guarded, value => ∃ members, value = .object members ∧
    Json.GivenOnce ["op", "symbol", "type", "target", "then"] members ∧
    Json.Member members "op" (· = .string "is") False ∧
    subject.WrittenIn members ∧
    Json.Member members "target" (· = target.toValue) False ∧
    Json.Member members "then"
      (fun value => ∃ values, value = .array values ∧ WrittenAll guarded values) (guarded = [])
  | .access subject field, value => ∃ members, value = .object members ∧
    Json.GivenOnce ["op", "symbol", "type", "field"] members ∧
    Json.Member members "op" (· = .string "field") False ∧
    subject.WrittenIn members ∧
    Json.Member members "field" (· = .string field) False

/-- Values write checks, one for one. -/
def WrittenAll : List Check → List Json.Value → Prop
  | [], values => values = []
  | check :: rest, values => ∃ value others, values = value :: others ∧
    check.WrittenAs value ∧ WrittenAll rest others

end

/-- The kind of a check. -/
def kind : Check → Kind
  | .assign _ _ => .assign
  | .test _ _ _ => .test
  | .access _ _ => .access

/-- The subject of a check, if it is a test or an access. -/
def subject? : Check → Option Subject
  | .assign _ _ => none
  | .test subject _ _ => some subject
  | .access subject _ => some subject

/-- What has been made out of a check after the keys that were met. -/
def draftAfter (keys : List String) : Check → Draft
  | .assign symbol type => {
      symbol? := readAfter keys "symbol" (some symbol)
      type? := readAfter keys "type" (some type) }
  | .test subject target guarded => {
      symbol? := readAfter keys "symbol" subject.symbol?
      type? := readAfter keys "type" subject.type?
      target? := readAfter keys "target" target
      guarded? := readAfter keys "then" guarded }
  | .access subject field => {
      symbol? := readAfter keys "symbol" subject.symbol?
      type? := readAfter keys "type" subject.type?
      field? := readAfter keys "field" field }

namespace Draft

theorem optional_ofOption {α : Type} (make : Json.Value → Except ReadError α)
    (write : α → Json.Value) (hmake : ∀ content, make (write content) = .ok content)
    (hne : ∀ content, write content ≠ .null) (content? : Option α) :
    optional make (.ofOption write content?) = .ok content? := by
  cases content? with
  | none => rfl
  | some content =>
    rw [Json.Value.ofOption, optional.eq_2 _ _ (hne content), hmake]
    rfl

section

variable {draft : Draft}

theorem put_assign_symbol (hnew : draft.symbol? = none) (symbol : String) :
    draft.put .assign "symbol" (.string symbol) =
      .ok { draft with symbol? := some (some symbol) } := by
  simp [put, once, hnew, string, ok_bind, pure, Except.pure]

theorem put_assign_type (hnew : draft.type? = none) (type : TypeRef) :
    draft.put .assign "type" type.toValue = .ok { draft with type? := some (some type) } := by
  simp [put, once, hnew, type.ofValue_toValue, ok_bind, pure, Except.pure]

theorem put_symbol {kind : Kind} (hkind : kind ≠ .assign) (hnew : draft.symbol? = none)
    (symbol? : Option String) :
    draft.put kind "symbol" (.ofOption .string symbol?) =
      .ok { draft with symbol? := some symbol? } := by
  have hoptional := optional_ofOption string .string (fun _ => rfl) (by simp) symbol?
  cases kind with
  | assign => exact absurd rfl hkind
  | test | access => simp [put, once, hnew, hoptional, ok_bind, pure, Except.pure]

theorem put_type {kind : Kind} (hkind : kind ≠ .assign) (hnew : draft.type? = none)
    (type? : Option TypeRef) :
    draft.put kind "type" (.ofOption TypeRef.toValue type?) =
      .ok { draft with type? := some type? } := by
  have hoptional := optional_ofOption TypeRef.ofValue TypeRef.toValue TypeRef.ofValue_toValue
    TypeRef.toValue_ne_null type?
  cases kind with
  | assign => exact absurd rfl hkind
  | test | access => simp [put, once, hnew, hoptional, ok_bind, pure, Except.pure]

theorem put_target (hnew : draft.target? = none) (target : TypeRef) :
    draft.put .test "target" target.toValue = .ok { draft with target? := some target } := by
  simp [put, once, hnew, target.ofValue_toValue, ok_bind, pure, Except.pure]

theorem put_field (hnew : draft.field? = none) (field : String) :
    draft.put .access "field" (.string field) = .ok { draft with field? := some field } := by
  simp [put, once, hnew, string, ok_bind, pure, Except.pure]

/-- A key that is no field of a kind of check changes nothing. -/
theorem put_of_ne {kind : Kind} {name : String} (value : Json.Value)
    (hsymbol : name ≠ "symbol") (htype : name ≠ "type")
    (htarget : kind = .test → name ≠ "target") (hfield : kind = .access → name ≠ "field") :
    draft.put kind name value = .ok draft := by
  unfold put
  split <;> simp_all

end

end Draft

section

variable {members : List (String × Json.Value)}

/-- The members of a check are made out one after the other. -/
theorem ofMembers_cons_of_put {kind : Kind} {key : String} {value : Json.Value}
    {draft draft' : Draft} (hkey : kind = .test → key ≠ guardedKey)
    (hput : draft.put kind key value = .ok draft') :
    ofMembers kind ((key, value) :: members) draft = ofMembers kind members draft' := by
  have hnot : ¬(kind = .test ∧ key = guardedKey) := fun h => hkey h.1 h.2
  cases value <;> simp only [ofMembers, if_neg hnot, hput, ok_bind]

/-- The guarded checks of a test are made out like any other field. -/
theorem ofMembers_cons_guarded {values : List Json.Value} {guarded : List Check} {draft : Draft}
    (hnew : draft.guarded? = none) (hvalues : ofValues values = .ok guarded) :
    ofMembers .test ((guardedKey, .array values) :: members) draft =
      ofMembers .test members { draft with guarded? := some guarded } := by
  simp only [ofMembers, Draft.once, hnew, hvalues, ok_bind]
  rfl

/-- If each member of a check is made out as the next state tells, then all of them are. -/
theorem ofMembers_of_step (check : Check) {known : List String}
    (honce : Json.GivenOnce known members)
    (hstep : ∀ key value rest keys, (key, value) ∈ members → (key ∈ known → key ∉ keys) →
      ofMembers check.kind ((key, value) :: rest) (check.draftAfter keys) =
        ofMembers check.kind rest (check.draftAfter (key :: keys))) :
    ofMembers check.kind members (check.draftAfter []) =
      (check.draftAfter (Json.keysMet members [])).finish check.kind := by
  refine honce.induction (motive := fun given keys =>
    ofMembers check.kind given (check.draftAfter keys) =
      (check.draftAfter (Json.keysMet given keys)).finish check.kind) ?_ ?_
  · intro keys
    simp only [ofMembers, Json.keysMet]
  · intro key value rest keys hmember hnew ih
    rw [hstep key value rest keys hmember hnew, ih, Json.keysMet]

/-- An assignment is made out of the members that write it. -/
theorem ofMembers_assign {symbol : String} {type : TypeRef}
    (honce : Json.GivenOnce ["op", "symbol", "type"] members)
    (hsymbol : Json.Member members "symbol" (· = .string symbol) False)
    (htype : Json.Member members "type" (· = type.toValue) False) :
    ofMembers .assign members {} = .ok (.assign symbol type) := by
  have hmembers := ofMembers_of_step (.assign symbol type) honce ?_
  · refine hmembers.trans ?_
    simp only [kind, draftAfter, Draft.finish, hsymbol.readAfter_eq, htype.readAfter_eq]
    rfl
  · intro key value rest keys hmember hnew
    refine ofMembers_cons_of_put (by simp [kind]) ?_
    simp only [kind, draftAfter]
    by_cases hsymbolKey : key = "symbol"
    · subst hsymbolKey
      obtain rfl := hsymbol.1 value hmember
      rw [Draft.put_assign_symbol (readAfter_of_not_mem (hnew (by simp))), readAfter_cons_self,
        readAfter_cons_of_ne (by simp)]
    by_cases htypeKey : key = "type"
    · subst htypeKey
      obtain rfl := htype.1 value hmember
      rw [Draft.put_assign_type (readAfter_of_not_mem (hnew (by simp))), readAfter_cons_self,
        readAfter_cons_of_ne (by simp)]
    rw [Draft.put_of_ne value hsymbolKey htypeKey (by simp) (by simp),
      readAfter_cons_of_ne (Ne.symm hsymbolKey), readAfter_cons_of_ne (Ne.symm htypeKey)]

/-- The subject of a test or an access is made out of the members that write it. -/
theorem put_of_writtenIn {check : Check} {subject : Subject} {key : String} {value : Json.Value}
    {keys : List String} (hcheck : check.subject? = some subject)
    (hsubject : subject.WrittenIn members) (hmember : (key, value) ∈ members)
    (hkey : key = "symbol" ∨ key = "type") (hnew : key ∉ keys) :
    (check.draftAfter keys).put check.kind key value = .ok (check.draftAfter (key :: keys)) := by
  have hkind : check.kind ≠ .assign := by
    rintro hkind
    cases check <;> simp [subject?, kind] at hcheck hkind
  rcases hkey with rfl | rfl
  · obtain rfl := hsubject.1.1 value hmember
    rw [Draft.put_symbol hkind]
    -- Tests and accesses keep the subject in the same fields of the draft.
    · cases check <;> cases hcheck <;> simp [draftAfter, readAfter_cons_of_ne]
    · cases check <;> exact readAfter_of_not_mem hnew
  · obtain rfl := hsubject.2.1 value hmember
    rw [Draft.put_type hkind]
    · cases check <;> cases hcheck <;> simp [draftAfter, readAfter_cons_of_ne]
    · cases check <;> exact readAfter_of_not_mem hnew

/-- An access is made out of the members that write it. -/
theorem ofMembers_access {subject : Subject} {field : String}
    (honce : Json.GivenOnce ["op", "symbol", "type", "field"] members)
    (hsubject : subject.WrittenIn members)
    (hfield : Json.Member members "field" (· = .string field) False) :
    ofMembers .access members {} = .ok (.access subject field) := by
  have hmembers := ofMembers_of_step (.access subject field) honce ?_
  · refine hmembers.trans ?_
    simp only [kind, draftAfter, Draft.finish, Draft.subject, hsubject.1.join_readAfter,
      hsubject.2.join_readAfter, hfield.readAfter_eq]
    rfl
  · intro key value rest keys hmember hnew
    refine ofMembers_cons_of_put (by simp [kind]) ?_
    by_cases hsubjectKey : key = "symbol" ∨ key = "type"
    · exact put_of_writtenIn rfl hsubject hmember hsubjectKey (hnew (by grind))
    obtain ⟨hsymbolKey, htypeKey⟩ := not_or.mp hsubjectKey
    simp only [kind, draftAfter, readAfter_cons_of_ne (Ne.symm hsymbolKey),
      readAfter_cons_of_ne (Ne.symm htypeKey)]
    by_cases hfieldKey : key = "field"
    · subst hfieldKey
      obtain rfl := hfield.1 value hmember
      rw [Draft.put_field (readAfter_of_not_mem (hnew (by simp))), readAfter_cons_self]
    · rw [Draft.put_of_ne value hsymbolKey htypeKey (by simp) (fun _ => hfieldKey),
        readAfter_cons_of_ne (Ne.symm hfieldKey)]

/-- A test is made out of the members that write it, if the checks that it guards are. -/
theorem ofMembers_test {subject : Subject} {target : TypeRef} {guarded : List Check}
    (honce : Json.GivenOnce ["op", "symbol", "type", "target", "then"] members)
    (hsubject : subject.WrittenIn members)
    (htarget : Json.Member members "target" (· = target.toValue) False)
    (hguarded : Json.Member members "then"
      (fun value => ∃ values, value = .array values ∧ ofValues values = .ok guarded)
      (guarded = [])) :
    ofMembers .test members {} = .ok (.test subject target guarded) := by
  have hmembers := ofMembers_of_step (.test subject target guarded) honce ?_
  · refine hmembers.trans ?_
    simp only [kind, draftAfter, Draft.finish, Draft.subject, hsubject.1.join_readAfter,
      hsubject.2.join_readAfter, htarget.readAfter_eq, hguarded.getD_readAfter]
    rfl
  · intro key value rest keys hmember hnew
    by_cases hguardedKey : key = "then"
    · subst hguardedKey
      obtain ⟨values, rfl, hvalues⟩ := hguarded.1 value hmember
      refine (ofMembers_cons_guarded (readAfter_of_not_mem (hnew (by simp))) hvalues).trans ?_
      simp [kind, draftAfter, readAfter_cons_of_ne]
    refine ofMembers_cons_of_put (fun _ => hguardedKey) ?_
    by_cases hsubjectKey : key = "symbol" ∨ key = "type"
    · exact put_of_writtenIn rfl hsubject hmember hsubjectKey (hnew (by grind))
    obtain ⟨hsymbolKey, htypeKey⟩ := not_or.mp hsubjectKey
    simp only [kind, draftAfter, readAfter_cons_of_ne (Ne.symm hsymbolKey),
      readAfter_cons_of_ne (Ne.symm htypeKey), readAfter_cons_of_ne (Ne.symm hguardedKey)]
    by_cases htargetKey : key = "target"
    · subst htargetKey
      obtain rfl := htarget.1 value hmember
      rw [Draft.put_target (readAfter_of_not_mem (hnew (by simp))), readAfter_cons_self]
    · rw [Draft.put_of_ne value hsymbolKey htypeKey (fun _ => htargetKey) (by simp),
        readAfter_cons_of_ne (Ne.symm htargetKey)]

/-- The kind of a check is found where its tag is. -/
theorem kindOfMembers_eq {kind : Kind} {known : List String} (honce : Json.GivenOnce known members)
    (hknown : kindKey ∈ known)
    (htag : Json.Member members kindKey (· = .string kind.keyword) False) :
    kindOfMembers members none = .ok kind := by
  have hmembers : kindOfMembers members (readAfter [] kindKey kind) =
      requiredField kindKey (readAfter (Json.keysMet members []) kindKey kind) := by
    refine honce.induction (motive := fun given keys =>
      kindOfMembers given (readAfter keys kindKey kind) =
        requiredField kindKey (readAfter (Json.keysMet given keys) kindKey kind)) ?_ ?_
    · intro keys
      by_cases hkey : kindKey ∈ keys <;>
        simp only [Json.keysMet, readAfter, hkey, if_true, if_false, kindOfMembers, requiredField]
    · intro key value rest keys hmember hnew ih
      rw [Json.keysMet, ← ih]
      by_cases hkey : key = kindKey
      · subst hkey
        obtain rfl := htag.1 value hmember
        have hkind : Kind.ofValue (.string kind.keyword) = .ok kind := by cases kind <;> rfl
        simp only [kindOfMembers, if_true, readAfter_of_not_mem (hnew hknown), hkind, ok_bind,
          readAfter_cons_self]
      · simp only [kindOfMembers, if_neg hkey, readAfter_cons_of_ne (Ne.symm hkey)]
  rw [readAfter_nil] at hmembers
  rw [hmembers, htag.readAfter_eq]
  rfl

/-- The tag of a check is read where it is met, and all other members are taken in. -/
theorem readMembers_eq {kind : Kind} {known : List String} (honce : Json.GivenOnce known members)
    (hknown : kindKey ∈ known)
    (htag : Json.Member members kindKey (· = .string kind.keyword) False) {depth : Nat}
    {nodes : List (Json.Node × Json.Node)}
    (htake : Json.Node.takeMembers depth nodes = .ok members) :
    readMembers depth nodes none = .ok (some kind, members.filter (·.1 ≠ kindKey)) := by
  have hmembers : readMembers depth nodes (readAfter [] kindKey kind) =
      .ok (readAfter (Json.keysMet members []) kindKey kind,
        members.filter (·.1 ≠ kindKey)) := by
    refine honce.induction (motive := fun given keys => ∀ nodes,
      Json.Node.takeMembers depth nodes = .ok given →
      readMembers depth nodes (readAfter keys kindKey kind) =
        .ok (readAfter (Json.keysMet given keys) kindKey kind, given.filter (·.1 ≠ kindKey)))
      ?_ ?_ nodes htake
    · intro keys nodes htake
      rw [Json.Node.takeMembers_eq_ok_iff] at htake
      cases htake
      rfl
    · intro key value rest keys hmember hnew ih nodes htake
      rw [Json.Node.takeMembers_eq_ok_iff] at htake
      obtain ⟨node, nodes, ⟨hkey, hvalue⟩, hnodes, rfl⟩ := List.forall₂_cons_right_iff.mp htake
      have hrest := ih nodes (Json.Node.takeMembers_eq_ok_iff.mpr hnodes)
      simp only [readMembers, hkey, Reader.lift, mapError_ok, ok_bind]
      by_cases hkindKey : key = kindKey
      · -- The tag is read from the tree itself, before it is taken in as a value.
        subst hkindKey
        obtain rfl := htag.1 value hmember
        obtain ⟨quotation, hnode, hquotation⟩ := Json.Node.take_eq_string_iff.mp hvalue
        have hkind : Kind.ofNode node.2 = .ok kind := by
          rw [hnode, Kind.ofNode, Reader.variant, hquotation]
          cases kind <;> rfl
        simp only [if_true, isSome_readAfter, List.contains_eq_mem, hnew hknown, hkind]
        simpa [ok_bind, readAfter_cons_self, Json.keysMet] using hrest
      · rw [readAfter_cons_of_ne (Ne.symm hkindKey)] at hrest
        simp only [if_neg hkindKey, hvalue, mapError_ok, ok_bind, hrest]
        simp [hkindKey, Json.keysMet, pure, Except.pure]
  rw [readAfter_nil] at hmembers
  rw [hmembers, htag.readAfter_eq]

/-- The tag is no field of a check. -/
theorem ofMembers_filter (kind : Kind) (members : List (String × Json.Value)) (draft : Draft) :
    ofMembers kind (members.filter (·.1 ≠ kindKey)) draft = ofMembers kind members draft := by
  induction members generalizing draft with
  | nil => rfl
  | cons member rest ih =>
    obtain ⟨key, value⟩ := member
    by_cases hkey : key = kindKey
    · subst hkey
      have hput : draft.put kind kindKey value = .ok draft :=
        Draft.put_of_ne value (by simp [kindKey]) (by simp [kindKey]) (by simp [kindKey])
          (by simp [kindKey])
      rw [ofMembers_cons_of_put (by simp [kindKey, guardedKey]) hput, ← ih draft]
      simp
    · rw [List.filter_cons_of_pos (by simpa using hkey)]
      cases value <;> simp only [ofMembers, ih]

/-- Members make up a check: they have its tag, and its fields are made out of them. -/
structure MadeOf (check : Check) (members : List (String × Json.Value)) : Prop where
  /-- The tag is given once. -/
  once : Json.GivenOnce [kindKey] members
  /-- The tag is that of the check. -/
  tag : Json.Member members kindKey (· = .string check.kind.keyword) False
  /-- The fields are made out. -/
  fields : ofMembers check.kind members {} = .ok check

/-- A check is made of the members that make it up. -/
theorem MadeOf.ofValue_eq {check : Check} (h : check.MadeOf members) :
    ofValue (.object members) = .ok check := by
  rw [ofValue, kindOfMembers_eq h.once List.mem_cons_self h.tag, ok_bind, h.fields]

/-- A check is read from the object of the members that make it up. -/
theorem MadeOf.reads {check : Check} (h : check.MadeOf members) :
    reader.Reads (.object members) check := by
  intro depth node htake
  obtain ⟨nodes, inner, rfl, hopen, hmembers⟩ := Json.Node.take_eq_object_iff.mp htake
  simp only [reader, Reader.openNested, hopen, Reader.lift, mapError_ok, ok_bind,
    readMembers_eq h.once List.mem_cons_self h.tag hmembers, requiredField]
  rw [ofMembers_filter, h.fields]
  rfl

/-- An object that writes a check has members that make it up, if the checks that it guards are made
of what they are written as. -/
theorem exists_madeOf {check : Check} {value : Json.Value} (h : check.WrittenAs value)
    (hguarded : ∀ values, WrittenAll check.guarded values → ofValues values = .ok check.guarded) :
    ∃ members, value = .object members ∧ check.MadeOf members := by
  cases check with
  | assign symbol type =>
    obtain ⟨members, rfl, honce, htag, hsymbol, htype⟩ := h
    exact ⟨members, rfl, honce.mono (by simp [kindKey]), htag, ofMembers_assign honce hsymbol htype⟩
  | access subject field =>
    obtain ⟨members, rfl, honce, htag, hsubject, hfield⟩ := h
    exact ⟨members, rfl, honce.mono (by simp [kindKey]), htag,
      ofMembers_access honce hsubject hfield⟩
  | test subject target guarded =>
    obtain ⟨members, rfl, honce, htag, hsubject, htarget, hthen⟩ := h
    refine ⟨members, rfl, honce.mono (by simp [kindKey]), htag,
      ofMembers_test honce hsubject htarget ⟨fun value hmember => ?_, hthen.2⟩⟩
    obtain ⟨values, hvalue, hwritten⟩ := hthen.1 value hmember
    exact ⟨values, hvalue, hguarded values hwritten⟩

/-- Checks are made of what they are written as, to any depth. -/
theorem ofValues_of_writtenAll {checks : List Check} {values : List Json.Value}
    (h : WrittenAll checks values) : ofValues values = .ok checks := by
  induction checks using Check.forest_induction generalizing values with
  | nil =>
    obtain rfl : values = [] := h
    simp only [ofValues]
  | cons check rest ihGuarded ihRest =>
    obtain ⟨value, others, rfl, hcheck, hrest⟩ := h
    obtain ⟨members, rfl, hmade⟩ := exists_madeOf hcheck fun values => ihGuarded
    rw [ofValues, hmade.ofValue_eq, ok_bind, ihRest hrest]
    rfl

/-- A check is read from any object that writes it. -/
theorem reads_of_writtenAs {check : Check} {value : Json.Value} (h : check.WrittenAs value) :
    reader.Reads value check := by
  obtain ⟨members, rfl, hmade⟩ := exists_madeOf h fun values => ofValues_of_writtenAll
  exact hmade.reads

end

end Check

end Narrowing
