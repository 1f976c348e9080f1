import Narrowing.Proofs.Json.Grammar

/-!
# Building trees

From the tokens of a text that writes a value a tree is built that holds the value: it is taken in
as the value, unless arrays and objects are nested more deeply than they may be. Each token that the
tree takes leaves two steps less to take, which is what the building of a tree may use.
-/

namespace Narrowing.Json

/-- A list splits where a related one does. -/
theorem exists_append_of_forall₂ {α β : Type} {R : α → β → Prop} {as as' : List α} {bs : List β}
    (h : List.Forall₂ R (as ++ as') bs) :
    ∃ bs₁ bs₂, bs = bs₁ ++ bs₂ ∧ List.Forall₂ R as bs₁ ∧ List.Forall₂ R as' bs₂ := by
  induction as generalizing bs with
  | nil => exact ⟨[], bs, rfl, .nil, h⟩
  | cons a as ih =>
    obtain ⟨b, bs, hb, hbs, rfl⟩ := List.forall₂_cons_left_iff.mp h
    obtain ⟨bs₁, bs₂, rfl, h₁, h₂⟩ := ih hbs
    exact ⟨b :: bs₁, bs₂, rfl, .cons hb h₁, h₂⟩

namespace Node

variable {steps : Nat} {tokens rest : List Token} {token : Token}

theorem build_openArray (hne : token ≠ .closeArray) :
    build (steps + 1) (.openArray :: token :: rest) =
      (.array (buildElements steps (token :: rest)).1 (buildElements steps (token :: rest)).2.1,
        (buildElements steps (token :: rest)).2.2) := by
  cases token <;> first | exact absurd rfl hne | simp only [build]

theorem build_openObject (hne : token ≠ .closeObject) :
    build (steps + 1) (.openObject :: token :: rest) =
      (.object (buildMembers steps (token :: rest)).1 (buildMembers steps (token :: rest)).2.1,
        (buildMembers steps (token :: rest)).2.2) := by
  cases token <;> first | exact absurd rfl hne | simp only [build]

theorem buildElements_closed {element : Node}
    (helement : build steps tokens = (element, .closeArray :: rest)) :
    buildElements (steps + 1) tokens = ([element], .closed, rest) := by
  simp only [buildElements, helement]

theorem buildElements_comma {element : Node}
    (helement : build steps tokens = (element, .comma :: token :: rest))
    (hne : token ≠ .closeArray) :
    buildElements (steps + 1) tokens =
      (element :: (buildElements steps (token :: rest)).1,
        (buildElements steps (token :: rest)).2) := by
  cases token <;> first | exact absurd rfl hne | simp only [buildElements, helement]

theorem buildMembers_closed {quotation : Quotation} {value : Node}
    (hvalue : build (steps + 1) tokens = (value, .closeObject :: rest)) :
    buildMembers (steps + 2) (.string quotation :: .colon :: tokens) =
      ([(.string quotation, value)], .closed, rest) := by
  have hkey : build (steps + 1) (.string quotation :: .colon :: tokens) =
      (.string quotation, .colon :: tokens) := by simp only [build]
  simp only [buildMembers, hkey, hvalue]

theorem buildMembers_comma {quotation : Quotation} {value : Node}
    (hvalue : build (steps + 1) tokens = (value, .comma :: token :: rest))
    (hne : token ≠ .closeObject) :
    buildMembers (steps + 2) (.string quotation :: .colon :: tokens) =
      ((.string quotation, value) :: (buildMembers (steps + 1) (token :: rest)).1,
        (buildMembers (steps + 1) (token :: rest)).2) := by
  have hkey : build (steps + 1) (.string quotation :: .colon :: tokens) =
      (.string quotation, .colon :: tokens) := by simp only [build]
  cases token <;> first | exact absurd rfl hne | simp only [buildMembers, hkey, hvalue]

/-- A tree holds a value: it is taken in as the value wherever there is room for the arrays and
objects of the value. -/
def Holds (node : Node) (value : Value) : Prop :=
  ∀ depth, value.nesting ≤ depth → node.take depth = .ok value

/-- From the tokens that tell a value a tree is built that holds the value, whatever follows on
them. -/
def BuiltFrom (value : Value) : Prop :=
  ∀ tokens, List.Forall₂ Lexeme.ToldBy value.lexemes tokens →
    ∃ node : Node, node.Holds value ∧
      ∀ steps rest, 2 * tokens.length ≤ steps → build steps (tokens ++ rest) = (node, rest)

/-- The tokens of an array begin with something else than a closing bracket. -/
theorem exists_tokens_cons {element : Value} {elements : List Value} {tokens : List Token}
    (htold : List.Forall₂ Lexeme.ToldBy
      ([.mark .comma].intercalate ((element :: elements).map Value.lexemes)) tokens) :
    ∃ token rest, tokens = token :: rest ∧ token ≠ .closeArray := by
  obtain ⟨lexeme, lexemes, heq, hne⟩ := element.exists_lexemes_cons
  have hfirst : ∃ more, [Lexeme.mark .comma].intercalate ((element :: elements).map Value.lexemes) =
      lexeme :: more := by
    cases elements <;> simp [heq]
  obtain ⟨more, hmore⟩ := hfirst
  rw [hmore] at htold
  obtain ⟨token, rest, htoken, -, rfl⟩ := List.forall₂_cons_left_iff.mp htold
  refine ⟨token, rest, rfl, ?_⟩
  rintro rfl
  rcases lexeme with sign | word | number | string
  · cases sign <;> simp_all [Lexeme.ToldBy, Mark.token]
  all_goals simp [Lexeme.ToldBy] at htoken

/-- The elements of an array are built from the tokens that tell them. -/
theorem exists_buildElements {element : Value} {elements : List Value}
    (hbuilt : ∀ value ∈ element :: elements, BuiltFrom value) {tokens : List Token}
    (htold : List.Forall₂ Lexeme.ToldBy
      ([.mark .comma].intercalate ((element :: elements).map Value.lexemes)) tokens) :
    ∃ nodes, List.Forall₂ Holds nodes (element :: elements) ∧
      ∀ steps rest, 2 * tokens.length + 2 ≤ steps →
        buildElements steps (tokens ++ .closeArray :: rest) = (nodes, .closed, rest) := by
  induction elements generalizing element tokens with
  | nil =>
    rw [List.map_singleton, List.intercalate_singleton] at htold
    obtain ⟨node, hholds, hbuild⟩ := hbuilt element List.mem_cons_self tokens htold
    refine ⟨[node], .cons hholds .nil, fun steps rest hsteps => ?_⟩
    obtain ⟨steps, rfl⟩ := Nat.exists_eq_add_of_le' (show 1 ≤ steps by omega)
    exact buildElements_closed (hbuild steps (.closeArray :: rest) (by omega))
  | cons next elements ih =>
    rw [List.map_cons, List.map_cons, List.intercalate_cons_cons, List.append_assoc] at htold
    obtain ⟨first, others, rfl, hfirst, hothers⟩ := exists_append_of_forall₂ htold
    obtain ⟨_, others, rfl, hrest, rfl⟩ := List.forall₂_cons_left_iff.mp hothers
    obtain ⟨node, hholds, hbuild⟩ := hbuilt element List.mem_cons_self first hfirst
    obtain ⟨nodes, hnodes, hbuildElements⟩ :=
      ih (fun value hvalue => hbuilt value (List.mem_cons_of_mem element hvalue)) hrest
    -- After a comma the next element has to begin: a bracket there would close the array.
    obtain ⟨token, others, rfl, hne⟩ := exists_tokens_cons hrest
    refine ⟨node :: nodes, .cons hholds hnodes, fun steps rest hsteps => ?_⟩
    obtain ⟨steps, rfl⟩ := Nat.exists_eq_add_of_le' (show 1 ≤ steps by omega)
    simp only [List.length_append, List.length_cons] at hsteps hbuildElements
    have helement := hbuild steps (.comma :: token :: (others ++ .closeArray :: rest)) (by omega)
    have hrest := hbuildElements steps rest (by omega)
    rw [List.append_assoc, Mark.token, List.cons_append, List.cons_append,
      buildElements_comma helement hne, ← List.cons_append, hrest]

/-- A pair of trees holds a member of an object: a key and a value. -/
def HoldsMember (node : Node × Node) (member : String × Value) : Prop :=
  node.1.takeKey = .ok member.1 ∧ node.2.Holds member.2

/-- The members of an object are built from the tokens that tell them. -/
theorem exists_buildMembers {member : String × Value} {members : List (String × Value)}
    (hbuilt : ∀ other ∈ member :: members, BuiltFrom other.2) {tokens : List Token}
    (htold : List.Forall₂ Lexeme.ToldBy
      ([.mark .comma].intercalate ((member :: members).map fun member =>
        .string member.1 :: .mark .colon :: member.2.lexemes)) tokens) :
    ∃ nodes, List.Forall₂ HoldsMember nodes (member :: members) ∧
      (∃ quotation others, tokens = .string quotation :: others) ∧
      ∀ steps rest, 2 * tokens.length + 2 ≤ steps →
        buildMembers steps (tokens ++ .closeObject :: rest) = (nodes, .closed, rest) := by
  induction members generalizing member tokens with
  | nil =>
    rw [List.map_singleton, List.intercalate_singleton] at htold
    obtain ⟨_, _, ⟨quotation, hkey, rfl⟩, hafterKey, rfl⟩ := List.forall₂_cons_left_iff.mp htold
    obtain ⟨_, tokens, rfl, hvalue, rfl⟩ := List.forall₂_cons_left_iff.mp hafterKey
    obtain ⟨node, hholds, hbuild⟩ := hbuilt member List.mem_cons_self tokens hvalue
    refine ⟨[(.string quotation, node)], .cons ⟨hkey, hholds⟩ .nil, ⟨_, _, rfl⟩,
      fun steps rest hsteps => ?_⟩
    obtain ⟨steps, rfl⟩ := Nat.exists_eq_add_of_le' (show 2 ≤ steps by omega)
    simp only [List.length_cons] at hsteps
    exact buildMembers_closed (hbuild (steps + 1) (.closeObject :: rest) (by omega))
  | cons next members ih =>
    rw [List.map_cons, List.map_cons, List.intercalate_cons_cons, List.append_assoc,
      List.cons_append, List.cons_append] at htold
    obtain ⟨_, _, ⟨quotation, hkey, rfl⟩, hafterKey, rfl⟩ := List.forall₂_cons_left_iff.mp htold
    obtain ⟨_, _, rfl, hvalues, rfl⟩ := List.forall₂_cons_left_iff.mp hafterKey
    obtain ⟨first, _, rfl, hfirst, hothers⟩ := exists_append_of_forall₂ hvalues
    obtain ⟨_, others, rfl, hrest, rfl⟩ := List.forall₂_cons_left_iff.mp hothers
    obtain ⟨node, hholds, hbuild⟩ := hbuilt member List.mem_cons_self first hfirst
    obtain ⟨nodes, hnodes, ⟨quotation', others, rfl⟩, hbuildMembers⟩ :=
      ih (fun other hother => hbuilt other (List.mem_cons_of_mem _ hother)) hrest
    refine ⟨(.string quotation, node) :: nodes, .cons ⟨hkey, hholds⟩ hnodes, ⟨_, _, rfl⟩,
      fun steps rest hsteps => ?_⟩
    obtain ⟨steps, rfl⟩ := Nat.exists_eq_add_of_le' (show 2 ≤ steps by omega)
    simp only [List.length_append, List.length_cons] at hsteps hbuildMembers
    have hvalue := hbuild (steps + 1)
      (.comma :: .string quotation' :: (others ++ .closeObject :: rest)) (by omega)
    have hmembers := hbuildMembers (steps + 1) rest (by omega)
    simp only [List.cons_append, List.append_assoc, Mark.token] at hmembers ⊢
    rw [buildMembers_comma hvalue (by simp), hmembers]

/-- Closed brackets around trees that hold values hold the array of these values. -/
theorem holds_array {nodes : List Node} {elements : List Value}
    (h : List.Forall₂ Holds nodes elements) :
    (Node.array nodes .closed).Holds (.array elements) := by
  intro depth hdepth
  rw [Value.nesting] at hdepth
  obtain ⟨depth, rfl⟩ := Nat.exists_eq_add_of_le' (show 1 ≤ depth by omega)
  have helements : takeElements depth nodes = .ok elements := by
    rw [Nat.add_le_add_iff_right] at hdepth
    induction h with
    | nil => simp only [takeElements]
    | cons hnode _ ih =>
      rw [Value.elementNesting, Nat.max_le] at hdepth
      simp only [takeElements, hnode depth hdepth.1, ih hdepth.2]
      rfl
  simp only [take, openNested, ok_bind, helements]
  rfl

/-- Closed braces around trees that hold members hold the object of these members. -/
theorem holds_object {nodes : List (Node × Node)} {members : List (String × Value)}
    (h : List.Forall₂ HoldsMember nodes members) :
    (Node.object nodes .closed).Holds (.object members) := by
  intro depth hdepth
  rw [Value.nesting] at hdepth
  obtain ⟨depth, rfl⟩ := Nat.exists_eq_add_of_le' (show 1 ≤ depth by omega)
  have hmembers : takeMembers depth nodes = .ok members := by
    rw [Nat.add_le_add_iff_right] at hdepth
    induction h with
    | nil => simp only [takeMembers]
    | cons hnode _ ih =>
      rw [Value.memberNesting, Nat.max_le] at hdepth
      simp only [takeMembers, hnode.1, hnode.2 depth hdepth.1, ih hdepth.2]
      rfl
  simp only [take, openNested, ok_bind, hmembers]
  rfl

/-- A block is told by the tokens of its marks around those of its items. -/
theorem exists_block {opening closing : Mark} {items : List (List Lexeme)} {tokens : List Token}
    (htold : List.Forall₂ Lexeme.ToldBy (Lexeme.block opening closing items) tokens) :
    ∃ inside, tokens = opening.token :: (inside ++ [closing.token]) ∧
      List.Forall₂ Lexeme.ToldBy ([.mark .comma].intercalate items) inside := by
  obtain ⟨_, _, rfl, hafterOpening, rfl⟩ := List.forall₂_cons_left_iff.mp htold
  obtain ⟨inside, _, rfl, hinside, hclosing⟩ := exists_append_of_forall₂ hafterOpening
  obtain ⟨_, _, rfl, hnil, rfl⟩ := List.forall₂_cons_left_iff.mp hclosing
  cases hnil
  exact ⟨inside, rfl, hinside⟩

/-- An array is built from the tokens that tell it if its elements are. -/
theorem builtFrom_array {elements : List Value} (hbuilt : ∀ value ∈ elements, BuiltFrom value) :
    BuiltFrom (.array elements) := by
  intro tokens htold
  rw [Value.lexemes, Value.elementLexemes_eq_map] at htold
  obtain ⟨inside, rfl, hinside⟩ := exists_block htold
  simp only [Mark.token, List.length_cons, List.length_append, List.length_nil, List.cons_append,
    List.append_assoc, List.nil_append]
  cases elements with
  | nil =>
    cases hinside
    refine ⟨.array [] .closed, holds_array .nil, fun steps rest hsteps => ?_⟩
    obtain ⟨steps, rfl⟩ := Nat.exists_eq_add_of_le' (show 1 ≤ steps by omega)
    simp only [List.nil_append, build]
  | cons element elements =>
    obtain ⟨nodes, hnodes, hbuild⟩ := exists_buildElements hbuilt hinside
    obtain ⟨token, inside, rfl, hne⟩ := exists_tokens_cons hinside
    refine ⟨.array nodes .closed, holds_array hnodes, fun steps rest hsteps => ?_⟩
    obtain ⟨steps, rfl⟩ := Nat.exists_eq_add_of_le' (show 1 ≤ steps by omega)
    have helements := hbuild steps rest (by omega)
    rw [List.cons_append] at helements ⊢
    rw [build_openArray hne, helements]

/-- An object is built from the tokens that tell it if the values of its members are. -/
theorem builtFrom_object {members : List (String × Value)}
    (hbuilt : ∀ member ∈ members, BuiltFrom member.2) : BuiltFrom (.object members) := by
  intro tokens htold
  rw [Value.lexemes, Value.memberLexemes_eq_map] at htold
  obtain ⟨inside, rfl, hinside⟩ := exists_block htold
  simp only [Mark.token, List.length_cons, List.length_append, List.length_nil, List.cons_append,
    List.append_assoc, List.nil_append]
  cases members with
  | nil =>
    cases hinside
    refine ⟨.object [] .closed, holds_object .nil, fun steps rest hsteps => ?_⟩
    obtain ⟨steps, rfl⟩ := Nat.exists_eq_add_of_le' (show 1 ≤ steps by omega)
    simp only [List.nil_append, build]
  | cons member members =>
    obtain ⟨nodes, hnodes, ⟨quotation, inside, rfl⟩, hbuild⟩ := exists_buildMembers hbuilt hinside
    refine ⟨.object nodes .closed, holds_object hnodes, fun steps rest hsteps => ?_⟩
    obtain ⟨steps, rfl⟩ := Nat.exists_eq_add_of_le' (show 1 ≤ steps by omega)
    have hmembers := hbuild steps rest (by omega)
    rw [List.cons_append] at hmembers ⊢
    rw [build_openObject (by simp), hmembers]

/-- A scalar is built from the single token that tells it. -/
theorem builtFrom_scalar {value : Value} (lexeme : Lexeme) (hlexemes : value.lexemes = [lexeme])
    (h : ∀ token, lexeme.ToldBy token →
      ∃ node : Node, node.Holds value ∧
        ∀ steps rest, build (steps + 1) (token :: rest) = (node, rest)) : BuiltFrom value := by
  intro tokens htold
  rw [hlexemes] at htold
  obtain ⟨token, _, htoken, hnil, rfl⟩ := List.forall₂_cons_left_iff.mp htold
  cases hnil
  obtain ⟨node, hholds, hbuild⟩ := h token htoken
  refine ⟨node, hholds, fun steps rest hsteps => ?_⟩
  obtain ⟨steps, rfl⟩ := Nat.exists_eq_add_of_le' (show 1 ≤ steps by simp at hsteps; omega)
  exact hbuild steps rest

/-- Every value is built from the tokens that tell it. -/
theorem builtFrom (value : Value) : BuiltFrom value := by
  induction value using Value.induction with
  | null =>
    refine builtFrom_scalar (.word .null) (by simp only [Value.lexemes]) ?_
    rintro token rfl
    exact ⟨.null, fun _ _ => by simp only [take], fun _ _ => by simp only [build]⟩
  | bool value =>
    refine builtFrom_scalar (.word (.bool value)) (by simp only [Value.lexemes]) ?_
    rintro token rfl
    exact ⟨.bool value, fun _ _ => by simp only [take], fun _ _ => by simp only [build]⟩
  | number value =>
    refine builtFrom_scalar (.number value) (by simp only [Value.lexemes]) ?_
    rintro token ⟨lexeme, hvalue, rfl⟩
    exact ⟨.number lexeme, fun _ _ => by simp only [take, hvalue]; rfl,
      fun _ _ => by simp only [build]⟩
  | string value =>
    refine builtFrom_scalar (.string value) (by simp only [Value.lexemes]) ?_
    rintro token ⟨quotation, hvalue, rfl⟩
    exact ⟨.string quotation, fun _ _ => by simp only [take, hvalue]; rfl,
      fun _ _ => by simp only [build]⟩
  | array elements ih => exact builtFrom_array ih
  | object members ih => exact builtFrom_object ih

end Node

/-- A text that writes a value is a document of a tree that holds the value, and nothing follows on
it. -/
theorem Value.WrittenBy.document {value : Value} {text : String} (h : value.WrittenBy text) :
    ∃ node : Node, node.Holds value ∧ Document.ofText text = ⟨node, false⟩ := by
  obtain ⟨node, hholds, hbuild⟩ := Node.builtFrom value _ (h.toldBy_tokens value.divided_lexemes)
  refine ⟨node, hholds, ?_⟩
  have hroot := hbuild (2 * (tokens text.toList).length + 2) [] (Nat.le_add_right ..)
  rw [List.append_nil] at hroot
  simp [Document.ofText, hroot]

end Narrowing.Json
