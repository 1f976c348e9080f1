import Mathlib.Data.List.Flatten
import Mathlib.Data.List.Nodup
import Narrowing.Proofs.Run.Steps

/-!
# The nodes of a forest

Checks guard checks, to any depth. The nodes of a forest are all its checks, those that guard
before those that are guarded, and each has a position of its own. The visits of a run go through
the nodes in this order and leave out, after each rejected check, exactly the nodes below it.
-/

namespace Narrowing

/-- A check at its place in a forest, whether the check is made or not. -/
structure Node where
  /-- The way to the check, as in a visit. -/
  position : List Nat
  /-- The check. -/
  check : Check

namespace Node

/-- The first node guards the second one, directly or through others: the way to the second node
goes through the first one and on. -/
def Guards (outer inner : Node) : Prop :=
  ∃ index rest, inner.position = outer.position ++ index :: rest

theorem Guards.trans {outer between inner : Node} (h : outer.Guards between)
    (h' : between.Guards inner) : outer.Guards inner := by
  obtain ⟨index, rest, hposition⟩ := h
  obtain ⟨index', rest', hposition'⟩ := h'
  exact ⟨index, rest ++ index' :: rest', by rw [hposition', hposition]; simp⟩

/-- No node guards one that the way leads to by another turn. -/
theorem not_guards_of_turn_ne {outer inner : Node} {parent rest rest' : List Nat}
    {index index' : Nat} (houter : outer.position = parent ++ index :: rest)
    (hinner : inner.position = parent ++ index' :: rest') (hne : index' ≠ index) :
    ¬ outer.Guards inner := by
  rintro ⟨next, further, hposition⟩
  rw [houter, hinner, List.append_assoc, List.append_cancel_left_eq, List.cons_append] at hposition
  exact hne (List.cons.inj hposition).1

/-- No node guards a sibling of its own or a node further up. -/
theorem not_guards_sibling {outer inner : Node} {parent rest : List Nat} {index index' : Nat}
    (houter : outer.position = parent ++ index :: rest)
    (hinner : inner.position = parent ++ [index']) : ¬ outer.Guards inner := by
  rintro ⟨next, further, hposition⟩
  rw [houter, hinner, List.append_assoc, List.append_cancel_left_eq] at hposition
  simp at hposition

end Node

/-- The node of a visit. -/
def Visit.node (visit : Visit) : Node := ⟨visit.position, visit.check⟩

/-- The node of a step. -/
def Step.node (step : Step) : Node := step.visit.node

namespace Check

mutual

/-- A check and the nodes that it guards, to any depth. -/
def nodesFrom (position : List Nat) : Check → List Node
  | .assign name value => [⟨position, .assign name value⟩]
  | .test subject target guarded =>
    ⟨position, .test subject target guarded⟩ :: nodes position 0 guarded
  | .access subject field => [⟨position, .access subject field⟩]

/-- The nodes of a list of siblings, which are placed as in the visits of the list. -/
def nodes (parent : List Nat) (index : Nat) : List Check → List Node
  | [] => []
  | check :: rest => nodesFrom (parent ++ [index]) check ++ nodes parent (index + 1) rest

end

@[simp] theorem nodes_nil (parent : List Nat) (index : Nat) : nodes parent index [] = [] := by
  simp only [nodes]

/-- A check comes first, then come the nodes that it guards, and then its siblings. -/
theorem nodes_cons (parent : List Nat) (index : Nat) (check : Check) (rest : List Check) :
    nodes parent index (check :: rest) =
      ⟨parent ++ [index], check⟩ ::
        (nodes (parent ++ [index]) 0 check.guarded ++ nodes parent (index + 1) rest) := by
  cases check <;> simp [nodes, nodesFrom, guarded]

/-- The nodes of siblings stand at the siblings' own turns of the way. -/
theorem position_of_mem_nodes {parent : List Nat} {index : Nat} {checks : List Check} {node : Node}
    (hnode : node ∈ nodes parent index checks) :
    ∃ index' rest, index ≤ index' ∧ node.position = parent ++ index' :: rest := by
  induction checks using Check.forest_induction generalizing parent index with
  | nil => simp at hnode
  | cons check rest ihGuarded ihRest =>
    rw [nodes_cons, List.mem_cons, List.mem_append] at hnode
    rcases hnode with rfl | hinside | hrest
    · exact ⟨index, [], Nat.le_refl index, rfl⟩
    · obtain ⟨next, further, _, hposition⟩ := ihGuarded hinside
      exact ⟨index, next :: further, Nat.le_refl index, by simpa using hposition⟩
    · obtain ⟨index', further, hle, hposition⟩ := ihRest hrest
      exact ⟨index', further, by omega, hposition⟩

/-- The nodes that a check guards are guarded by it. -/
theorem guards_of_mem_nodes (outer : Node) {node : Node}
    (hnode : node ∈ nodes outer.position 0 outer.check.guarded) : outer.Guards node := by
  obtain ⟨index, rest, _, hposition⟩ := position_of_mem_nodes hnode
  exact ⟨index, rest, hposition⟩

/-- The positions of the nodes ascend, where a way comes before those that go on from it, and these
come before the ways that take a later turn. -/
theorem nodes_ascending (parent : List Nat) (index : Nat) (checks : List Check) :
    (nodes parent index checks).Pairwise fun node later => node.position < later.position := by
  induction checks using Check.forest_induction generalizing parent index with
  | nil => simp
  | cons check rest ihGuarded ihRest =>
    rw [nodes_cons, List.pairwise_cons, List.pairwise_append]
    refine ⟨fun later hlater => ?_, ihGuarded (parent ++ [index]) 0, ihRest parent (index + 1),
      fun node hnode later hlater => ?_⟩
    · rcases List.mem_append.mp hlater with hinside | hrest
      · obtain ⟨next, further, _, hposition⟩ := position_of_mem_nodes hinside
        rw [hposition, List.append_assoc]
        exact List.append_left_lt (List.cons_lt_cons_self.mpr (List.nil_lt_cons next further))
      · obtain ⟨index', further, hle, hposition⟩ := position_of_mem_nodes hrest
        rw [hposition]
        exact List.append_left_lt (List.cons_lt_cons_iff.mpr (.inl (by omega)))
    · obtain ⟨next, further, _, hposition⟩ := position_of_mem_nodes hnode
      obtain ⟨index', further', hle, hposition'⟩ := position_of_mem_nodes hlater
      rw [hposition, hposition', List.append_assoc]
      exact List.append_left_lt (List.cons_lt_cons_iff.mpr (.inl (by omega)))

end Check

namespace Context

variable {context : Context} {scope : Scope} {parent : List Nat} {index : Nat}
  {checks : List Check}

/-- The nodes that a visit leaves out: those below it, if its check is rejected. -/
def skipped (context : Context) (visit : Visit) : List Node :=
  if context.accepts visit then [] else Check.nodes visit.position 0 visit.check.guarded

theorem skipped_of_ok (visit : Visit) {narrowing : Option (String × Ty)}
    (hjudge : context.judge visit.scope visit.check = .ok narrowing) :
    context.skipped visit = [] := by
  simp [skipped, accepts_eq_true_iff, hjudge]

theorem skipped_of_error (visit : Visit) {failure : Failure}
    (hjudge : context.judge visit.scope visit.check = .error failure) :
    context.skipped visit = Check.nodes visit.position 0 visit.check.guarded := by
  simp [skipped, accepts_eq_true_iff, hjudge]

/-- The nodes of a forest are the visited ones, in the order of the visits, each followed by those
that are left out there. -/
theorem nodes_eq_flatMap_visits (context : Context) (scope : Scope) (parent : List Nat)
    (index : Nat) (checks : List Check) :
    Check.nodes parent index checks =
      (context.visits scope parent index checks).flatMap fun visit =>
        visit.node :: context.skipped visit := by
  induction checks using Check.forest_induction generalizing scope parent index with
  | nil => simp
  | cons check rest ihGuarded ihRest =>
    have hinside : Check.nodes (parent ++ [index]) 0 check.guarded =
        context.skipped ⟨parent ++ [index], check, scope⟩ ++
          (context.visitsInside scope (parent ++ [index]) check).flatMap fun visit =>
            visit.node :: context.skipped visit := by
      unfold visitsInside
      cases hjudge : context.judge scope check with
      | error failure =>
        rw [skipped_of_error ⟨parent ++ [index], check, scope⟩ hjudge, List.flatMap_nil,
          List.append_nil]
      | ok narrowing =>
        rw [skipped_of_ok ⟨parent ++ [index], check, scope⟩ hjudge, List.nil_append]
        exact ihGuarded (scope.narrow narrowing) (parent ++ [index]) 0
    rw [Check.nodes_cons, visits_cons, List.flatMap_cons, List.flatMap_append, hinside,
      ihRest scope parent (index + 1), List.cons_append, List.append_assoc]
    rfl

/-- Each visit is the visit of a node, and the visits keep the order of the nodes. -/
theorem nodes_sublist (context : Context) (scope : Scope) (parent : List Nat) (index : Nat)
    (checks : List Check) :
    ((context.visits scope parent index checks).map Visit.node).Sublist
      (Check.nodes parent index checks) := by
  rw [nodes_eq_flatMap_visits context scope, List.map_eq_flatMap]
  exact List.Sublist.flatMap_right _ fun visit _ => (List.nil_sublist _).cons_cons _

/-- The visits of siblings stand at the siblings' own turns of the way. -/
theorem position_of_mem_visits {visit : Visit}
    (hvisit : visit ∈ context.visits scope parent index checks) :
    ∃ index' rest, index ≤ index' ∧ visit.node.position = parent ++ index' :: rest :=
  Check.position_of_mem_nodes
    ((nodes_sublist context scope parent index checks).subset (List.mem_map_of_mem hvisit))

/-- No two visits go to the same node. -/
theorem eq_of_node_eq {visit visit' : Visit}
    (hvisit : visit ∈ context.visits scope parent index checks)
    (hvisit' : visit' ∈ context.visits scope parent index checks)
    (hnode : visit.node = visit'.node) : visit = visit' := by
  have hnodup : (Check.nodes parent index checks).Nodup := by
    refine (Check.nodes_ascending parent index checks).imp ?_
    intro node later hlt heq
    rw [heq] at hlt
    exact List.lt_irrefl _ hlt
  exact List.inj_on_of_nodup_map (hnodup.sublist (nodes_sublist context scope parent index checks))
    hvisit hvisit' hnode

/-- The visits inside a check stand below it. -/
theorem position_of_mem_visitsInside {check : Check} {visit : Visit}
    (hvisit : visit ∈ context.visitsInside scope (parent ++ [index]) check) :
    ∃ next rest, visit.node.position = parent ++ index :: next :: rest := by
  obtain ⟨narrowing, _, hmem⟩ := mem_visitsInside_iff.mp hvisit
  obtain ⟨next, rest, _, hposition⟩ := position_of_mem_visits hmem
  exact ⟨next, rest, by simpa using hposition⟩

/-- A visit that is guarded by another one goes to a check that the other one guards, in the scope
of the other one's check, which is accepted. -/
theorem mem_visits_of_guards {outer inner : Visit}
    (houter : outer ∈ context.visits scope parent index checks)
    (hinner : inner ∈ context.visits scope parent index checks)
    (hguards : outer.node.Guards inner.node) :
    ∃ narrowing, context.judge outer.scope outer.check = .ok narrowing ∧
      inner ∈ context.visits (outer.scope.narrow narrowing) outer.position 0
        outer.check.guarded := by
  induction checks using Check.forest_induction generalizing scope parent index with
  | nil => simp at houter
  | cons check rest ihGuarded ihRest =>
    rw [visits_cons, List.mem_cons, List.mem_append] at houter hinner
    -- Either visit goes to the first check, below it, or to a later sibling. Where the two are not
    -- on one way, their positions say so.
    rcases houter with rfl | houter | houter
    · rcases hinner with rfl | hinner | hinner
      · exact absurd hguards (Node.not_guards_sibling rfl rfl)
      · exact mem_visitsInside_iff.mp hinner
      · obtain ⟨index', rest', hle, hposition⟩ := position_of_mem_visits hinner
        exact absurd hguards (Node.not_guards_of_turn_ne rfl hposition (by omega))
    · obtain ⟨next, further, hposition⟩ := position_of_mem_visitsInside houter
      rcases hinner with rfl | hinner | hinner
      · exact absurd hguards (Node.not_guards_sibling hposition rfl)
      · obtain ⟨narrowing, hjudge, houter⟩ := mem_visitsInside_iff.mp houter
        obtain ⟨narrowing', hjudge', hinner⟩ := mem_visitsInside_iff.mp hinner
        rw [hjudge] at hjudge'
        cases hjudge'
        exact ihGuarded houter hinner
      · obtain ⟨index', rest', hle, hposition'⟩ := position_of_mem_visits hinner
        exact absurd hguards (Node.not_guards_of_turn_ne hposition hposition' (by omega))
    · obtain ⟨index', further, hle, hposition⟩ := position_of_mem_visits houter
      rcases hinner with rfl | hinner | hinner
      · exact absurd hguards (Node.not_guards_sibling hposition rfl)
      · obtain ⟨next, rest', hposition'⟩ := position_of_mem_visitsInside hinner
        exact absurd hguards (Node.not_guards_of_turn_ne hposition hposition' (by omega))
      · exact ihRest houter hinner

/-- What is visited inside an accepted check is visited. -/
theorem visits_inside_subset {outer : Visit} {narrowing : Option (String × Ty)}
    (houter : outer ∈ context.visits scope parent index checks)
    (hjudge : context.judge outer.scope outer.check = .ok narrowing) :
    context.visits (outer.scope.narrow narrowing) outer.position 0 outer.check.guarded ⊆
      context.visits scope parent index checks := by
  induction checks using Check.forest_induction generalizing scope parent index with
  | nil => simp at houter
  | cons check rest ihGuarded ihRest =>
    intro inner hinner
    rw [visits_cons, List.mem_cons, List.mem_append] at houter ⊢
    rcases houter with rfl | houter | houter
    · exact .inr (.inl (mem_visitsInside_iff.mpr ⟨narrowing, hjudge, hinner⟩))
    · obtain ⟨narrowing', hjudge', houter⟩ := mem_visitsInside_iff.mp houter
      exact .inr (.inl (mem_visitsInside_iff.mpr ⟨narrowing', hjudge', ihGuarded houter hinner⟩))
    · exact .inr (.inr (ihRest houter hinner))

/-- A node is visited, or it is guarded by a check that is visited and rejected. -/
theorem exists_visit_of_mem_nodes (context : Context) (scope : Scope) {node : Node}
    (hnode : node ∈ Check.nodes parent index checks) :
    ∃ visit ∈ context.visits scope parent index checks,
      node = visit.node ∨ context.accepts visit = false ∧ visit.node.Guards node := by
  rw [nodes_eq_flatMap_visits context scope, List.mem_flatMap] at hnode
  obtain ⟨visit, hvisit, hmem⟩ := hnode
  refine ⟨visit, hvisit, ?_⟩
  rcases List.mem_cons.mp hmem with heq | hskipped
  · exact .inl heq
  · cases haccepts : context.accepts visit with
    | true => simp [skipped, haccepts] at hskipped
    | false =>
      have hbelow : node ∈ Check.nodes visit.position 0 visit.check.guarded := by
        simpa [skipped, haccepts] using hskipped
      exact .inr ⟨rfl, Check.guards_of_mem_nodes visit.node hbelow⟩

/-- A node is visited exactly when all checks that guard it are visited and accepted. -/
theorem mem_visits_iff {node : Node} (hnode : node ∈ Check.nodes parent index checks) :
    node ∈ (context.visits scope parent index checks).map Visit.node ↔
      ∀ outer ∈ Check.nodes parent index checks, outer.Guards node →
        ∃ visit ∈ context.visits scope parent index checks,
          visit.node = outer ∧ context.accepts visit = true := by
  constructor
  · intro hvisited outer houter hguards
    obtain ⟨inner, hinner, rfl⟩ := List.mem_map.mp hvisited
    obtain ⟨visit, hvisit, heq | ⟨hrejected, hbelow⟩⟩ :=
      exists_visit_of_mem_nodes context scope houter
    · rw [heq] at hguards
      obtain ⟨narrowing, hjudge, _⟩ := mem_visits_of_guards hvisit hinner hguards
      exact ⟨visit, hvisit, heq.symm, accepts_eq_true_iff.mpr ⟨narrowing, hjudge⟩⟩
    · obtain ⟨narrowing, hjudge, _⟩ :=
        mem_visits_of_guards hvisit hinner (hbelow.trans hguards)
      rw [accepts_eq_true_iff.mpr ⟨narrowing, hjudge⟩] at hrejected
      cases hrejected
  · intro haccepted
    obtain ⟨visit, hvisit, rfl | ⟨hrejected, hbelow⟩⟩ :=
      exists_visit_of_mem_nodes context scope hnode
    · exact List.mem_map_of_mem hvisit
    · have hmem : visit.node ∈ Check.nodes parent index checks :=
        (nodes_sublist context scope parent index checks).subset (List.mem_map_of_mem hvisit)
      obtain ⟨visit', hvisit', heq, haccepts⟩ := haccepted visit.node hmem hbelow
      rw [eq_of_node_eq hvisit' hvisit heq, hrejected] at haccepts
      cases haccepts

end Context

end Narrowing
