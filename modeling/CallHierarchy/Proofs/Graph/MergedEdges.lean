import CallHierarchy.Proofs.Graph.Additions

/-!
What becomes of the edges that are added to a graph. Those with the same ends and the same source
are kept as one edge, at the place of the first of them; it lists the sites of the first and then
every other site once, as they came. So nothing is lost whatever the order of the additions is, and
an edge that was added before has nothing to add.
-/

namespace CallHierarchy

theorem CallEdge.foldl_addSite_eq
    (sites more : List Location) :
    more.foldl addSite sites = sites ++ more.eraseDups.filter fun site => site ∉ sites :=
  foldl_addNew sites more

/-- The sites of edges of one kind: those of the first edge, then those of the later ones, in order,
that are not listed yet. -/
def joinedSites : List CallEdge → List Location
  | [] => []
  | first :: later =>
      first.sites ++ (later.flatMap CallEdge.sites).eraseDups.filter fun site => site ∉ first.sites

theorem joinedSites_cons
    (first : CallEdge) (later : List CallEdge) :
    joinedSites (first :: later) =
      (later.flatMap CallEdge.sites).foldl CallEdge.addSite first.sites :=
  (CallEdge.foldl_addSite_eq _ _).symm

theorem joinedSites_concat
    {edges : List CallEdge} (nonempty : edges ≠ []) (last : CallEdge) :
    joinedSites (edges ++ [last]) = last.sites.foldl CallEdge.addSite (joinedSites edges) := by
  obtain ⟨first, later, rfl⟩ := List.exists_cons_of_ne_nil nonempty
  rw [List.cons_append, joinedSites_cons, joinedSites_cons, List.flatMap_append,
    List.flatMap_singleton, List.foldl_append]

theorem nodup_joinedSites
    {edges : List CallEdge} (distinct : ∀ edge ∈ edges, edge.sites.Nodup) :
    (joinedSites edges).Nodup := by
  cases edges with
  | nil => exact List.nodup_nil
  | cons first later =>
      rw [joinedSites, List.nodup_append']
      refine ⟨distinct first List.mem_cons_self, (nodup_eraseDups _).filter _, ?_⟩
      intro site listed isNew
      simp [listed] at isNew

def ofKind (edges : List CallEdge) (key : NodeId × NodeId × EdgeSource) : List CallEdge :=
  edges.filter fun edge => edge.key = key

theorem ofKind_concat_same
    (edges : List CallEdge) (last : CallEdge) :
    ofKind (edges ++ [last]) last.key = ofKind edges last.key ++ [last] := by
  simp [ofKind]

theorem ofKind_concat_other
    {last : CallEdge} {key : NodeId × NodeId × EdgeSource} (other : key ≠ last.key)
    (edges : List CallEdge) :
    ofKind (edges ++ [last]) key = ofKind edges key := by
  simp [ofKind, other.symm]

theorem ofKind_eq_nil_iff
    {edges : List CallEdge} {key : NodeId × NodeId × EdgeSource} :
    ofKind edges key = [] ↔ key ∉ edges.map CallEdge.key := by
  simp [ofKind]

/-- A merged edge is of another kind than the added one, has taken up its sites, or is new. -/
theorem mergeEdge_cases
    {added edge : CallEdge} {edges : List CallEdge} (distinct : (edges.map CallEdge.key).Nodup)
    (merged : edge ∈ mergeEdge added edges) :
    (edge ∈ edges ∧ edge.key ≠ added.key) ∨
      (∃ present ∈ edges, present.key = added.key ∧ edge = present.absorb added) ∨
      (edge = added ∧ added.key ∉ edges.map CallEdge.key) := by
  induction edges with
  | nil => simpa [mergeEdge] using merged
  | cons first rest inductionHypothesis =>
      obtain ⟨firstNotRest, restDistinct⟩ := List.nodup_cons.1 distinct
      by_cases sameKey : first.key = added.key
      · rw [mergeEdge, if_pos sameKey] at merged
        rcases List.mem_cons.1 merged with rfl | inRest
        · exact Or.inr (Or.inl ⟨first, List.mem_cons_self, sameKey, rfl⟩)
        · refine Or.inl ⟨List.mem_cons_of_mem first inRest, ?_⟩
          rw [← sameKey]
          exact ne_of_mem_of_not_mem (List.mem_map_of_mem inRest) firstNotRest
      · rw [mergeEdge, if_neg sameKey] at merged
        rcases List.mem_cons.1 merged with rfl | inRest
        · exact Or.inl ⟨List.mem_cons_self, sameKey⟩
        · rcases inductionHypothesis restDistinct inRest with kept | absorbed | appended
          · exact Or.inl ⟨List.mem_cons_of_mem first kept.1, kept.2⟩
          · obtain ⟨present, member, isAbsorbed⟩ := absorbed
            exact Or.inr (Or.inl ⟨present, List.mem_cons_of_mem first member, isAbsorbed⟩)
          · refine Or.inr (Or.inr ⟨appended.1, ?_⟩)
            rw [List.map_cons, List.mem_cons, not_or]
            exact ⟨Ne.symm sameKey, appended.2⟩

namespace CallGraph

def addedEdges (additions : List Addition) : List CallEdge :=
  additions.filterMap Addition.edge?

theorem addedEdges_concat_node
    (additions : List Addition) (node : CallNode) :
    addedEdges (additions ++ [.node node]) = addedEdges additions := by
  rw [addedEdges, List.filterMap_append]
  exact List.append_nil _

theorem addedEdges_concat_edge
    (additions : List Addition) (edge : CallEdge) :
    addedEdges (additions ++ [.edge edge]) = addedEdges additions ++ [edge] := by
  rw [addedEdges, List.filterMap_append]
  rfl

/-- Nodes make no difference to the edges. -/
theorem edges_ofAdditions
    (additions : List Addition) :
    (ofAdditions additions).edges = mergeEdges [] (addedEdges additions) := by
  induction additions using List.reverseRecOn with
  | nil => rfl
  | append_singleton additions last inductionHypothesis =>
      rw [ofAdditions_concat]
      cases last with
      | node node =>
          rw [addedEdges_concat_node]
          exact inductionHypothesis
      | edge edge =>
          have wellFormed := (builtBy_ofAdditions additions).wellFormed
          rw [addedEdges_concat_edge, mergeEdges_append, ← inductionHypothesis]
          exact wellFormed.edges_addEdge edge

/-- A stored edge has the joined sites of the added edges of its kind. -/
theorem sites_eq_joinedSites
    (additions : List Addition) :
    ∀ edge ∈ (ofAdditions additions).edges,
      edge.sites = joinedSites (ofKind (addedEdges additions) edge.key) := by
  induction additions using List.reverseRecOn with
  | nil => exact fun edge member => absurd member List.not_mem_nil
  | append_singleton additions last inductionHypothesis =>
      rw [ofAdditions_concat]
      cases last with
      | node node =>
          rw [addedEdges_concat_node]
          exact inductionHypothesis
      | edge added =>
          intro edge member
          have built := builtBy_ofAdditions additions
          have sameKinds : ∀ key, key ∈ (ofAdditions additions).edges.map CallEdge.key ↔
              key ∈ (addedEdges additions).map CallEdge.key := by
            intro key
            rw [built.kinds, List.mem_eraseDups, addedEdges]
          rw [addedEdges_concat_edge]
          change edge ∈ ((ofAdditions additions).addEdge added).edges at member
          rw [built.wellFormed.edges_addEdge] at member
          rcases mergeEdge_cases built.wellFormed.distinct member with
            ⟨present, otherKey⟩ | ⟨present, isPresent, sameKey, rfl⟩ | ⟨rfl, absent⟩
          · rw [ofKind_concat_other otherKey]
            exact inductionHypothesis edge present
          · have nonempty : ofKind (addedEdges additions) added.key ≠ [] := by
              rw [ne_eq, ofKind_eq_nil_iff, not_not, ← sameKinds, ← sameKey]
              exact List.mem_map_of_mem isPresent
            rw [CallEdge.key_absorb, sameKey, ofKind_concat_same, joinedSites_concat nonempty,
              ← sameKey, ← inductionHypothesis present isPresent]
            rfl
          · rw [sameKinds, ← ofKind_eq_nil_iff] at absent
            rw [ofKind_concat_same, absent]
            simp [joinedSites]

/-- An edge all of whose sites are listed already changes nothing. -/
theorem WellFormed.addEdge_of_listed
    {graph : CallGraph} (wellFormed : graph.WellFormed) {edge present : CallEdge}
    (member : present ∈ graph.edges) (sameKey : present.key = edge.key)
    (listed : ∀ site ∈ edge.sites, site ∈ present.sites) :
    graph.addEdge edge = graph := by
  rw [CallGraph.addEdge]
  cases found : graph.existing? edge with
  | none => exact absurd sameKey (wellFormed.key_ne_of_existing? found present member)
  | some number =>
      obtain ⟨other, atNumber, otherKey⟩ := key_of_existing? found
      obtain rfl : other = present :=
        List.inj_on_of_nodup_map wellFormed.distinct (List.mem_of_getElem? atNumber) member
          (otherKey.trans sameKey.symm)
      have unchanged : graph.edges.modify number (fun old => old.absorb edge) = graph.edges := by
        apply List.ext_getElem?
        intro place
        rw [List.getElem?_modify]
        by_cases here : number = place
        · rw [← here, atNumber]
          simp [CallEdge.absorb, CallEdge.foldl_addSite_of_subset listed]
        · simp [here]
      simp only [unchanged]

theorem siteOf_ofAdditions_iff
    {additions : List Addition} {key : NodeId × NodeId × EdgeSource} {site : Location} :
    SiteOf (ofAdditions additions).edges key site ↔ SiteOf (addedEdges additions) key site := by
  rw [edges_ofAdditions, siteOf_mergeEdges]
  simp [SiteOf]

/-- The stored edges are the added ones, merged. -/
structure Joins (added stored : List CallEdge) : Prop where
  /-- There is one edge for each kind, in the order in which the first of the kind was added. -/
  kinds : stored.map CallEdge.key = (added.map CallEdge.key).eraseDups
  sites : ∀ edge ∈ stored, edge.sites = joinedSites (ofKind added edge.key)
  distinct : (∀ edge ∈ added, edge.sites.Nodup) → ∀ edge ∈ stored, edge.sites.Nodup

/-- Both lists have edges of the same kinds, and the same sites for each kind. -/
structure SameCalls (left right : List CallEdge) : Prop where
  kinds : ∀ key, key ∈ left.map CallEdge.key ↔ key ∈ right.map CallEdge.key
  sites : ∀ edge ∈ left, ∀ other ∈ right, edge.key = other.key →
    ∀ site, site ∈ edge.sites ↔ site ∈ other.sites

theorem joins_ofAdditions
    (additions : List Addition) :
    Joins (addedEdges additions) (ofAdditions additions).edges where
  kinds := (builtBy_ofAdditions additions).kinds
  sites := sites_eq_joinedSites additions
  distinct allDistinct edge member := by
    rw [sites_eq_joinedSites additions edge member]
    apply nodup_joinedSites
    intro added isAdded
    exact allDistinct added (List.mem_of_mem_filter isAdded)

/-- The order of the additions makes no difference to the kinds and their sites. -/
theorem sameCalls_of_perm
    {additions others : List Addition}
    (permuted : (addedEdges others).Perm (addedEdges additions)) :
    SameCalls (ofAdditions others).edges (ofAdditions additions).edges where
  kinds key := by
    rw [(joins_ofAdditions others).kinds, (joins_ofAdditions additions).kinds,
      List.mem_eraseDups, List.mem_eraseDups]
    exact (permuted.map CallEdge.key).mem_iff
  sites edge member other otherMember sameKey site := by
    have distinct := (builtBy_ofAdditions others).wellFormed.distinct
    have otherDistinct := (builtBy_ofAdditions additions).wellFormed.distinct
    rw [← siteOf_key_iff distinct member, ← siteOf_key_iff otherDistinct otherMember, sameKey,
      siteOf_ofAdditions_iff, siteOf_ofAdditions_iff]
    exact exists_congr fun added => and_congr_left' permuted.mem_iff

theorem addEdge_of_added
    {additions : List Addition} {edge : CallEdge} (added : edge ∈ addedEdges additions) :
    (ofAdditions additions).addEdge edge = ofAdditions additions := by
  have wellFormed := (builtBy_ofAdditions additions).wellFormed
  have stored : edge.key ∈ (ofAdditions additions).edges.map CallEdge.key := by
    rw [(joins_ofAdditions additions).kinds, List.mem_eraseDups]
    exact List.mem_map_of_mem added
  obtain ⟨present, member, sameKey⟩ := List.mem_map.1 stored
  apply wellFormed.addEdge_of_listed member sameKey
  intro site listed
  rw [← siteOf_key_iff wellFormed.distinct member, siteOf_ofAdditions_iff, sameKey]
  exact ⟨edge, added, rfl, listed⟩

/-- Whatever nodes are added in between: for each caller, callee and source one edge is stored, at
the place of the first of the kind, with its sites and then the other ones in order, each once; the
order of the additions makes no difference to the kinds and to the sites of each; an edge that was
added before changes nothing when it is added again; and no site is listed twice if no added edge
lists one twice. -/
theorem ofAdditions_merges_without_loss
    (additions : List Addition) :
    Joins (addedEdges additions) (ofAdditions additions).edges ∧
      (∀ others, (addedEdges others).Perm (addedEdges additions) →
        SameCalls (ofAdditions others).edges (ofAdditions additions).edges) ∧
      ∀ edge ∈ addedEdges additions,
        (ofAdditions additions).addEdge edge = ofAdditions additions := by
  refine ⟨joins_ofAdditions additions, ?_, ?_⟩
  · intro others permuted
    exact sameCalls_of_perm permuted
  · intro edge added
    exact addEdge_of_added added

def lettersEdge (caller callee : Char) (source : EdgeSource) (lines : List Nat) : CallEdge :=
  { caller := ⟨[caller]⟩
    callee := ⟨[callee]⟩
    source := source
    sites := lines.map fun line => ⟨⟨['f'], Eq.refl true⟩, .onLine line 0 1⟩ }

def lettersNode : CallNode :=
  { name := ['a']
    kind := .function
    uri := ⟨['f'], Eq.refl true⟩
    range := .onLine 0 0 1
    selectionRange := .onLine 0 0 1
    container := none }

theorem shuffledEdges_merge_without_loss :
    let first := lettersEdge 'a' 'b' .directSearch [1, 2]
    let later := lettersEdge 'a' 'b' .directSearch [3, 2, 4]
    let other := lettersEdge 'a' 'b' .references [1]
    let own := lettersEdge 'a' 'a' .directSearch [5]
    let additions : List Addition :=
      [.edge first, .node lettersNode, .edge own, .edge other, .edge later]
    let shuffled : List Addition :=
      [.edge later, .edge other, .edge first, .edge own, .node lettersNode]
    (addedEdges shuffled).Perm (addedEdges additions) ∧
      (∀ edge ∈ addedEdges additions, edge.sites.Nodup) ∧
      later ∈ addedEdges additions ∧
      (ofAdditions additions).edges =
        [lettersEdge 'a' 'b' .directSearch [1, 2, 3, 4], own, other] ∧
      (ofAdditions shuffled).edges =
        [lettersEdge 'a' 'b' .directSearch [3, 2, 4, 1], other, own] ∧
      (∀ edge ∈ (ofAdditions additions).edges, edge.sites.Nodup) ∧
      SameCalls (ofAdditions shuffled).edges (ofAdditions additions).edges ∧
      (ofAdditions additions).addEdge later = ofAdditions additions := by
  intro first later other own additions shuffled
  have permuted : (addedEdges shuffled).Perm (addedEdges additions) := by decide +kernel
  have distinct : ∀ edge ∈ addedEdges additions, edge.sites.Nodup := by decide +kernel
  have added : later ∈ addedEdges additions := by decide +kernel
  obtain ⟨joins, sameCalls, again⟩ := ofAdditions_merges_without_loss additions
  exact ⟨permuted, distinct, added, by decide +kernel, by decide +kernel,
    joins.distinct distinct, sameCalls shuffled permuted, again later added⟩

end CallGraph

end CallHierarchy
