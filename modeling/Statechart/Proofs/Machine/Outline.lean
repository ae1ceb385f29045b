import Statechart.Outline
import Statechart.Proofs.Definition.Effect

/-! The outline of a machine goes through the hierarchy of its states, from each state to all below it
and then to the next beside it. In a forest the way comes to an end, and it meets every state once. -/
namespace Statechart.Machine

/-- The way through some states side by side: a state with its depth, then its children with all below
them, then the states beside it. Nothing bounds how deep it goes. -/
inductive Walk (m : Machine) : Nat → List State → List (Nat × State) → Prop where
  | done {depth} : Walk m depth [] []
  | visit {depth s ss below beside} : Walk m (depth + 1) (m.childrenOf s) below →
      Walk m depth ss beside → Walk m depth (s :: ss) ((depth, s) :: (below ++ beside))

variable {m : Machine} {depth : Nat} {s : State} {ss : List State} {rows : List (Nat × State)}

/-- The state is registered, and so many others are around it. -/
structure Stands (m : Machine) (depth : Nat) (s : State) : Prop where
  found : m.state? s.id = some s
  length_ancestors : (m.ancestors s.id).length = depth

namespace Walk

theorem unique {rows' : List (Nat × State)} (h : m.Walk depth ss rows) (h' : m.Walk depth ss rows') :
    rows' = rows := by
  induction h generalizing rows' with
  | done => cases h'; rfl
  | visit _ _ ihBelow ihBeside =>
    cases h' with
    | visit below beside => rw [ihBelow below, ihBeside beside]

theorem append {ts : List State} {rows' : List (Nat × State)} (h : m.Walk depth ss rows)
    (h' : m.Walk depth ts rows') : m.Walk depth (ss ++ ts) (rows ++ rows') := by
  induction h with
  | done => exact h'
  | visit below _ _ ih =>
    have step := visit below (ih h')
    rwa [← List.append_assoc] at step

theorem flatMap {f : State → List (Nat × State)} (h : ∀ s ∈ ss, m.Walk depth [s] (f s)) :
    m.Walk depth ss (ss.flatMap f) := by
  induction ss with
  | nil => exact done
  | cons s ss ih =>
    rw [List.forall_mem_cons] at h
    exact h.1.append (ih h.2)

theorem perm (h : m.Walk depth ss rows) :
    (rows.map (·.2)).Perm (ss ++ (rows.map (·.2)).flatMap m.childrenOf) := by
  induction h with
  | done => exact .refl _
  | @visit depth s ss below beside _ _ ihBelow ihBeside =>
    simp only [List.map_cons, List.map_append, List.flatMap_cons, List.flatMap_append,
      List.cons_append]
    refine .cons s ((ihBelow.append ihBeside).trans ?_)
    rw [← List.append_assoc (m.childrenOf s)]
    exact List.perm_append_comm_assoc _ _ _

theorem followed (h : m.Walk depth ss rows) {row : Nat × State} (member : row ∈ rows) :
    ∃ before below after, rows = before ++ row :: (below ++ after) ∧
      m.Walk (row.1 + 1) (m.childrenOf row.2) below := by
  induction h with
  | done => cases member
  | @visit depth s ss below beside walk _ ihBelow ihBeside =>
    rcases List.mem_cons.1 member with rfl | member
    · exact ⟨[], below, beside, rfl, walk⟩
    rcases List.mem_append.1 member with inside | next
    · obtain ⟨before, under, after, whole, walk'⟩ := ihBelow inside
      exact ⟨(depth, s) :: before, under, after ++ beside, by simp [whole], walk'⟩
    · obtain ⟨before, under, after, whole, walk'⟩ := ihBeside next
      exact ⟨(depth, s) :: (below ++ before), under, after, by simp [whole], walk'⟩

end Walk

namespace Forest

theorem ancestors_of_root (forest : m.Forest) {c : String} (root : m.parent? c = none) :
    m.ancestors c = [] :=
  lineage_unique (root ▸ forest.lineage_ancestors c) .root

theorem ancestors_of_parent (forest : m.Forest) {c p : String} (parent : m.parent? c = some p)
    (found : m.state? p = some s) : m.ancestors c = s :: m.ancestors p := by
  have above := forest.lineage_ancestors p
  rw [parent?_of_state? found] at above
  exact lineage_unique (parent ▸ forest.lineage_ancestors c) (.up found above)

theorem ids_childrenOf (forest : m.Forest) (found : m.state? s.id = some s) :
    (m.childrenOf s).map (·.id) = s.children := by
  have registered : ∀ id ∈ s.children, (m.state? id).map (·.id) = some id := by
    intro id child
    have listed : id ∈ m.childIds s.id := childIds_of_state? found ▸ child
    obtain ⟨c, look⟩ := hasState_iff.1 (forest.hasState_child listed)
    rw [look, Option.map_some, id_of_state? look]
  rw [childrenOf, List.map_filterMap, List.filterMap_congr registered, List.filterMap_some]

theorem mem_childrenOf_iff (forest : m.Forest) (found : m.state? s.id = some s) {c : State} :
    c ∈ m.childrenOf s ↔ m.state? c.id = some c ∧ m.parent? c.id = some s.id := by
  rw [forest.parent_iff, childIds_of_state? found, childrenOf, List.mem_filterMap]
  constructor
  · rintro ⟨id, child, look⟩
    rw [id_of_state? look]
    exact ⟨look, child⟩
  · rintro ⟨look, child⟩
    exact ⟨c.id, child, look⟩

theorem nodup_childrenOf (forest : m.Forest) (found : m.state? s.id = some s) :
    (m.childrenOf s).Nodup := by
  have ids := forest.nodup_children s.id
  rw [childIds_of_state? found, ← forest.ids_childrenOf found] at ids
  exact ids.of_map _

end Forest

theorem mem_roots_iff : s ∈ m.roots ↔ m.state? s.id = some s ∧ m.parent? s.id = none := by
  rw [roots, List.mem_filter, Registry.mem_entries_iff]
  constructor
  · rintro ⟨found, root⟩
    exact ⟨found, (parent?_of_state? found).trans (Option.isNone_iff_eq_none.1 root)⟩
  · rintro ⟨found, root⟩
    rw [parent?_of_state? found] at root
    exact ⟨found, Option.isNone_iff_eq_none.2 root⟩

/-! From the roots down. -/

theorem Stands.of_root (forest : m.Forest) (h : s ∈ m.roots) : m.Stands 0 s := by
  obtain ⟨found, root⟩ := mem_roots_iff.1 h
  refine ⟨found, ?_⟩
  rw [forest.ancestors_of_root root, List.length_nil]

theorem Stands.of_child (forest : m.Forest) (h : m.Stands depth s) {c : State}
    (child : c ∈ m.childrenOf s) : m.Stands (depth + 1) c := by
  obtain ⟨found, parent⟩ := (forest.mem_childrenOf_iff h.found).1 child
  refine ⟨found, ?_⟩
  rw [forest.ancestors_of_parent parent h.found, List.length_cons, h.length_ancestors]

theorem Stands.depth_lt (forest : m.Forest) (h : m.Stands depth s) : depth < m.states.size := by
  have bound := forest.length_lineage_le (forest.lineage_ancestors s.id)
  rw [if_pos (hasState_iff.2 ⟨s, h.found⟩), h.length_ancestors] at bound
  omega

theorem Walk.stands (forest : m.Forest) (h : m.Walk depth ss rows)
    (all : ∀ s ∈ ss, m.Stands depth s) : ∀ row ∈ rows, m.Stands row.1 row.2 := by
  induction h with
  | done => exact fun _ member => nomatch member
  | @visit depth s ss below beside _ _ ihBelow ihBeside =>
    rw [List.forall_mem_cons] at all
    rw [List.forall_mem_cons, List.forall_mem_append]
    exact ⟨all.1, ihBelow fun c child => all.1.of_child forest child, ihBeside all.2⟩

theorem Walk.known (forest : m.Forest) (walk : m.Walk 0 m.roots rows) :
    ∀ s ∈ rows.map (·.2), m.state? s.id = some s := by
  intro s member
  obtain ⟨row, listed, rfl⟩ := List.mem_map.1 member
  exact (walk.stands forest (fun _ root => .of_root forest root) row listed).found

/-- The bound on the height is met nowhere: the deeper a state stands, the less of it has been used up
as there is still to go. -/
theorem walk_subtree (forest : m.Forest) {height : Nat} (h : m.Stands depth s)
    (enough : m.states.size ≤ depth + height) : m.Walk depth [s] (m.subtree height depth s) := by
  induction height generalizing depth s with
  | zero =>
    have := h.depth_lt forest
    omega
  | succ height ih =>
    have below := Walk.flatMap fun c child => ih (h.of_child forest child) (by omega)
    have all := Walk.visit below .done
    rwa [List.append_nil] at all

theorem walk_outlineRows (forest : m.Forest) : m.Walk 0 m.roots m.outlineRows :=
  Walk.flatMap fun _ root => walk_subtree forest (.of_root forest root) (by omega)

/-! How often a state is met. -/

theorem count_roots (found : m.state? s.id = some s) (root : m.parent? s.id = none) :
    m.roots.count s = 1 := by
  have nodup : m.roots.Nodup := (m.states.nodup_keys.of_map _).filter _
  exact List.count_eq_one_of_mem nodup (mem_roots_iff.2 ⟨found, root⟩)

theorem count_flatMap_childrenOf (forest : m.Forest) {p : State} (found : m.state? s.id = some s)
    (parent : m.parent? s.id = some p.id) (known : m.state? p.id = some p)
    (all : ∀ q ∈ ss, m.state? q.id = some q) :
    (ss.flatMap m.childrenOf).count s = ss.count p := by
  induction ss with
  | nil => rfl
  | cons q ss ih =>
    rw [List.forall_mem_cons] at all
    rw [List.flatMap_cons, List.count_append, List.count_cons, ih all.2, Nat.add_comm]
    congr 1
    by_cases same : q = p
    · subst same
      rw [List.count_eq_one_of_mem (forest.nodup_childrenOf known)
        ((forest.mem_childrenOf_iff known).2 ⟨found, parent⟩)]
      simp
    · have other : s ∉ m.childrenOf q := by
        intro child
        have above := ((forest.mem_childrenOf_iff all.1).1 child).2
        rw [parent, Option.some.injEq] at above
        rw [← above, known, Option.some.injEq] at all
        exact same all.1.symm
      rw [List.count_eq_zero_of_not_mem other]
      simp [same]

theorem count_walk (forest : m.Forest) (walk : m.Walk 0 m.roots rows)
    (found : m.state? s.id = some s) : (rows.map (·.2)).count s = 1 := by
  have met := walk.known forest
  -- By induction from the roots down: a state is met as often as its parent.
  generalize own : s.id = id at found
  induction id using forest.wellFounded.induction generalizing s with
  | _ id ih =>
    subst own
    rw [walk.perm.count_eq, List.count_append]
    cases above : m.parent? s.id with
    | none =>
      have free : s ∉ (rows.map (·.2)).flatMap m.childrenOf := by
        intro member
        obtain ⟨q, listed, child⟩ := List.mem_flatMap.1 member
        have parent := ((forest.mem_childrenOf_iff (met q listed)).1 child).2
        rw [above] at parent
        cases parent
      rw [count_roots found above, List.count_eq_zero_of_not_mem free]
    | some p =>
      obtain ⟨q, known⟩ := hasState_iff.1 (forest.hasState_parent above)
      have same := id_of_state? known
      subst same
      have inner : s ∉ m.roots := by
        intro root
        have none := (mem_roots_iff.1 root).2
        rw [above] at none
        cases none
      rw [List.count_eq_zero_of_not_mem inner, Nat.zero_add,
        count_flatMap_childrenOf forest found above known met]
      exact ih q.id above rfl known

theorem perm_walk (forest : m.Forest) (walk : m.Walk 0 m.roots rows) :
    (rows.map (·.2)).Perm m.states.entries := by
  rw [List.perm_iff_count]
  intro s
  have nodup : m.states.entries.Nodup := m.states.nodup_keys.of_map _
  by_cases found : m.state? s.id = some s
  · rw [count_walk forest walk found, List.count_eq_one_of_mem nodup (Registry.mem_of_get? found)]
  · have unmet : s ∉ rows.map (·.2) := fun member => found (walk.known forest s member)
    have unknown : s ∉ m.states.entries := fun member => found (Registry.get?_of_mem member)
    rw [List.count_eq_zero_of_not_mem unmet, List.count_eq_zero_of_not_mem unknown]

/-! What is written of a row: a line for the state and one for each of its lists with an action on it. -/

/-- A row is set in by two blanks for each state around its own. -/
def margin (depth : Nat) : String := String.ofList (List.replicate (2 * depth) ' ')

def headline (row : Nat × State) : String :=
  margin row.1 ++ s!"[{row.2.kind.tag}] {row.2.id}: {row.2.name}"

def detail (m : Machine) (depth : Nat) (label : String) (actions : List String) : List String :=
  if actions = [] then [] else [margin (depth + 1) ++ s!"{label}: {m.actionNames actions}"]

theorem margin_succ (depth : Nat) : margin (depth + 1) = margin depth ++ "  " := by
  apply String.toList_inj.1
  simp [margin, Nat.mul_add, List.replicate_succ', List.append_assoc]

theorem join_replicate (depth : Nat) : String.join (List.replicate depth "  ") = margin depth := by
  induction depth with
  | zero => rfl
  | succ depth ih =>
    rw [List.replicate_succ', String.join_append, ih, margin_succ]
    rfl

theorem slotLine_eq (depth : Nat) (label : String) (actions : List String) :
    m.slotLine (margin depth) label actions = m.detail depth label actions := by
  rw [slotLine, detail, margin_succ]
  split
  · rfl
  · simp [String.append_assoc, toString]

theorem stateLines_eq (row : Nat × State) : m.stateLines row =
    headline row :: (m.detail row.1 "Entry" row.2.onEntry ++ m.detail row.1 "Exit" row.2.onExit ++
      m.detail row.1 "Do" row.2.during) := by
  obtain ⟨depth, s⟩ := row
  simp only [stateLines, join_replicate, slotLine_eq]
  simp [headline, toString, String.append_assoc]

/-- Each state of the machine is shown once and in its place. -/
structure Shows (m : Machine) (rows : List (Nat × State)) : Prop where
  walk : m.Walk 0 m.roots rows
  perm : (rows.map (·.2)).Perm m.states.entries
  nodup_ids : (rows.map (·.2.id)).Nodup
  depth : ∀ row ∈ rows, row.1 = (m.ancestors row.2.id).length
  followed : ∀ row ∈ rows, ∃ before below after, rows = before ++ row :: (below ++ after) ∧
    m.Walk (row.1 + 1) (m.childrenOf row.2) below
  children : ∀ row ∈ rows, (m.childrenOf row.2).map (·.id) = row.2.children

theorem Walk.shows (forest : m.Forest) (walk : m.Walk 0 m.roots rows) : m.Shows rows := by
  have stands := walk.stands forest fun _ root => .of_root forest root
  have perm := perm_walk forest walk
  have ids : (rows.map (·.2.id)).Perm (m.states.entries.map key) := by
    have mapped := perm.map (·.id)
    rwa [List.map_map] at mapped
  exact
    { walk
      perm
      nodup_ids := ids.nodup_iff.2 m.states.nodup_keys
      depth := fun row member => (stands row member).length_ancestors.symm
      followed := fun _ member => walk.followed member
      children := fun row member => forest.ids_childrenOf (stands row member).found }

/-- The outline shows each state of a machine once, and the way that it takes is the only one. What it
writes of a state begins with the state itself, set in by its depth. -/
theorem outline_shows_each_once (built : m.Built) :
    m.Shows m.outlineRows ∧ (∀ rows, m.Walk 0 m.roots rows → rows = m.outlineRows) ∧
    (∀ row ∈ m.outlineRows, m.stateLines row =
      headline row :: (m.detail row.1 "Entry" row.2.onEntry ++ m.detail row.1 "Exit" row.2.onExit ++
        m.detail row.1 "Do" row.2.during)) ∧
    ∃ rest, m.outline = Text.unlines (["=== FSM MODEL ===", "", "STATES:"] ++
      m.outlineRows.flatMap m.stateLines ++ "" :: rest) := by
  have walk := walk_outlineRows built.forest
  refine ⟨walk.shows built.forest, fun rows walk' => walk.unique walk',
    fun row _ => stateLines_eq row, ?_⟩
  refine ⟨"TRANSITIONS:" :: m.transitions.entries.flatMap m.transitionLines ++
    [""] ++ m.currentLine "CURRENT STATE", ?_⟩
  simp [outline]

/-- Registered again below its own grandchild, `c` lets its children go; `s` and `x` have children
although neither is a compound. -/
theorem outline_shows_each_once_turned :
    let m := (Draft.run {} [.state "c" "C" .compound none, .state "s" "S" .simple (some "c"),
      .state "x" "X" .final (some "s"), .state "a" "A" .initial (some "c"),
      .state "c" "C" .compound (some "x")]).build
    m.Built ∧ m.outlineRows.map (fun row => (row.1, row.2.id)) =
        [(0, "s"), (1, "x"), (2, "c"), (0, "a")] ∧
      m.Shows m.outlineRows := by
  intro m
  have built : m.Built := .drafted _ _
  exact ⟨built, by decide +kernel, (outline_shows_each_once built).1⟩

end Statechart.Machine
