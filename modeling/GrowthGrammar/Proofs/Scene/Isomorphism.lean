import GrowthGrammar.Proofs.Graph.Incidence
import GrowthGrammar.Proofs.Scene.Labelling

/-!
Isomorphism: two scenes with the same nodes and edges under other ids. Their fingerprints are the
same, whatever the digest: round for round a node has the label of its image, and what a label is
made of is sorted, so that no order shows in it.
-/
namespace GrowthGrammar

/-! ### Sorting forgets the order -/

/-- Puts an item before the first one that it precedes. -/
def insertBefore {α : Type} (before : α → α → Prop) [DecidableRel before] (item : α) :
    List α → List α
  | [] => [item]
  | a :: rest => if before item a then item :: a :: rest else a :: insertBefore before item rest

section InsertBefore

variable {α : Type} {before : α → α → Prop} [DecidableRel before] [IsStrictOrder α before]

theorem insertBefore_comm {x y : α} (precedes : before x y) (items : List α) :
    insertBefore before x (insertBefore before y items) =
      insertBefore before y (insertBefore before x items) := by
  have behind : ¬ before y x := asymm_of before precedes
  induction items with
  | nil => simp [insertBefore, precedes, behind]
  | cons a rest ih =>
    by_cases first : before y a
    · have earlier : before x a := trans_of before precedes first
      simp [insertBefore, precedes, behind, first, earlier]
    · by_cases second : before x a
      · simp [insertBefore, behind, first, second]
      · simp [insertBefore, first, second, ih]

/-- Items of which one precedes the other may be put in any order. -/
theorem foldl_insertBefore_perm {items items' : List α} (same : items.Perm items')
    (apart : ∀ x ∈ items, ∀ y ∈ items, before x y ∨ x = y ∨ before y x) :
    items.foldl (fun sorted item => insertBefore before item sorted) [] =
      items'.foldl (fun sorted item => insertBefore before item sorted) [] := by
  refine same.foldl_eq' (fun x first y second sorted => ?_) []
  obtain precedes | rfl | precedes := apart x first y second
  · exact (insertBefore_comm precedes sorted).symm
  · rfl
  · exact insertBefore_comm precedes sorted

end InsertBefore

namespace Scene

theorem insertText_eq (text : String) (texts : List String) :
    insertText text texts = insertBefore (· < ·) text texts := by
  induction texts with
  | nil => rfl
  | cons t rest ih => rw [insertText, insertBefore, ih]

theorem sortTexts_perm {texts texts' : List String} (same : texts.Perm texts') :
    sortTexts texts = sortTexts texts' := by
  unfold sortTexts
  simp only [insertText_eq]
  exact foldl_insertBefore_perm same fun x _ y _ => lt_trichotomy x y

theorem insertAttribute_eq (entry : Spelling × Scalar) (entries : List (Spelling × Scalar)) :
    insertAttribute entry entries = insertBefore (fun a b => a.1 < b.1) entry entries := by
  induction entries with
  | nil => rfl
  | cons e rest ih => rw [insertAttribute, insertBefore, ih]

/-- Attributes that are read alike are sorted alike, whatever was written first. -/
theorem sortedAttributes_eq {node node' : Node} (same : ∀ key, node'.get? key = node.get? key) :
    sortedAttributes node' = sortedAttributes node := by
  have entries : node.attributes.entries.Perm node'.attributes.entries := by
    refine (List.perm_ext_iff_of_nodup node.attributes.distinct.of_map
      node'.attributes.distinct.of_map).mpr fun (key, v) => ?_
    rw [← Catalog.get?_eq_some_iff, ← Catalog.get?_eq_some_iff]
    exact iff_of_eq (congrArg (· = some v) (same key).symm)
  have strict : IsStrictOrder (Spelling × Scalar) fun a b => a.1 < b.1 :=
    { irrefl := fun a => lt_irrefl a.1.codes
      trans := fun _ _ _ (first : _ < Spelling.codes _) => lt_trans first }
  unfold sortedAttributes
  simp only [insertAttribute_eq]
  refine (foldl_insertBefore_perm entries fun x first y second => ?_).symm
  obtain precedes | same | precedes := lt_trichotomy x.1.codes y.1.codes
  · exact .inl precedes
  · have here := Spelling.codes_inj same
    refine .inr (.inl (Prod.ext here ?_))
    have found := Catalog.get?_eq_some_iff.mpr first
    rw [here, Catalog.get?_eq_some_iff.mpr second] at found
    exact (Option.some.inj found).symm
  · exact .inr (.inr precedes)

theorem nodeText_eq {node node' : Node} (name : node'.name = node.name)
    (same : ∀ key, node'.get? key = node.get? key) : nodeText node' = nodeText node := by
  rw [nodeText, name, sortedAttributes_eq same]
  rfl

/-! ### Isomorphic scenes -/

theorem Edge.between_map (f : Int → Int) (a b : Int) :
    Edge.between (f (Edge.between a b).low) (f (Edge.between a b).high) =
      Edge.between (f a) (f b) := by
  obtain ⟨low, high⟩ | ⟨low, high⟩ :=
    Edge.between_eq_between_iff.mp (Edge.between_low_high (Edge.between a b))
  · rw [low, high]
  · rw [low, high, Edge.between_comm]

/-- The nodes of one scene go to those of another, one to one. Each carries what its image carries,
and edges go to edges. -/
structure Isomorphism (s t : Scene) (f : Int → Int) : Prop where
  nodes : Set.BijOn f {id | s.contains id = true} {id | t.contains id = true}
  carries : ∀ id node node', s.node? id = some node → t.node? (f id) = some node' →
    node'.name = node.name ∧ ∀ key, node'.get? key = node.get? key
  edges : ∀ a b, s.contains a = true → s.contains b = true →
    t.graph.hasEdge (f a) (f b) = s.graph.hasEdge a b

theorem perm_map_of_bijOn {α β : Type} {f : α → β} {items : List α} {images : List β}
    (distinct : items.Nodup) (distinct' : images.Nodup)
    (onto : Set.BijOn f {a | a ∈ items} {b | b ∈ images}) : images.Perm (items.map f) := by
  refine (List.perm_ext_iff_of_nodup distinct' (distinct.map_on onto.injOn)).mpr fun b => ?_
  rw [List.mem_map]
  exact (Set.ext_iff.mp onto.image_eq b).symm

variable {s t : Scene} {f : Int → Int} {labels labels' : Labels} {digest : String → String}

namespace Isomorphism

theorem contains_image (iso : Isomorphism s t f) {id : Int} (there : s.contains id = true) :
    t.contains (f id) = true := iso.nodes.mapsTo there

theorem exists_preimage (iso : Isomorphism s t f) {id' : Int} (there : t.contains id' = true) :
    ∃ id, s.contains id = true ∧ f id = id' := iso.nodes.surjOn there

theorem order_eq (iso : Isomorphism s t f) (h : s.Sound) (h' : t.Sound) : t.order = s.order := by
  have here (id : Int) : id ∈ s.graph.ids ↔ s.contains id = true := by
    rw [Graph.mem_ids, h.inStep]
  have there (id : Int) : id ∈ t.graph.ids ↔ t.contains id = true := by
    rw [Graph.mem_ids, h'.inStep]
  have images : t.graph.ids.Perm (s.graph.ids.map f) := by
    refine perm_map_of_bijOn s.graph.nodes.keys_nodup t.graph.nodes.keys_nodup ?_
    simpa only [here, there] using iso.nodes
  have counted (u : Scene) : u.order = u.graph.ids.length := (List.length_map _).symm
  rw [counted, counted, images.length_eq, List.length_map]

theorem edges_perm (iso : Isomorphism s t f) (h : s.Sound) (h' : t.Sound) :
    t.graph.edges.keys.Perm
      (s.graph.edges.keys.map fun e => Edge.between (f e.low) (f e.high)) := by
  have ends {e : Edge} (stored : s.graph.edges.contains e = true) :
      s.contains e.low = true ∧ s.contains e.high = true := by
    rw [h.inStep, h.inStep]
    exact h.consistent.endpoints e stored
  refine perm_map_of_bijOn s.graph.edges.keys_nodup t.graph.edges.keys_nodup ⟨?_, ?_, ?_⟩
  · intro e member
    have stored := Table.mem_keys.mp member
    have joined := iso.edges e.low e.high (ends stored).1 (ends stored).2
    rw [Graph.hasEdge, Graph.hasEdge, Edge.between_low_high, stored] at joined
    exact Table.mem_keys.mpr joined
  · intro e member d member' same
    have first := ends (Table.mem_keys.mp member)
    have second := ends (Table.mem_keys.mp member')
    have one {a b : Int} (here : s.contains a = true) (there : s.contains b = true)
        (equal : f a = f b) : a = b := iso.nodes.injOn here there equal
    rw [← e.between_low_high, ← d.between_low_high, Edge.between_eq_between_iff]
    obtain ⟨low, high⟩ | ⟨low, high⟩ := Edge.between_eq_between_iff.mp same
    · exact .inl ⟨one first.1 second.1 low, one first.2 second.2 high⟩
    · exact .inr ⟨one first.1 second.2 low, one first.2 second.1 high⟩
  · intro e member
    have stored := Table.mem_keys.mp member
    obtain ⟨low, high⟩ := h'.consistent.endpoints e stored
    obtain ⟨a, first, low⟩ := iso.exists_preimage ((h'.inStep e.low).trans low)
    obtain ⟨b, second, high⟩ := iso.exists_preimage ((h'.inStep e.high).trans high)
    have joined := iso.edges a b first second
    rw [Graph.hasEdge, Graph.hasEdge, low, high, Edge.between_low_high, stored] at joined
    refine ⟨Edge.between a b, Table.mem_keys.mpr joined.symm, ?_⟩
    show Edge.between (f (Edge.between a b).low) (f (Edge.between a b).high) = e
    rw [Edge.between_map, low, high, Edge.between_low_high]

theorem size_eq (iso : Isomorphism s t f) (h : s.Sound) (h' : t.Sound) :
    t.graph.size = s.graph.size := by
  have counted (g : Graph) : g.size = g.edges.keys.length := (List.length_map _).symm
  rw [counted, counted, (iso.edges_perm h h').length_eq, List.length_map]

/-- The neighbours of the image of a node are the images of its neighbours, in some order. -/
theorem neighbors_perm (iso : Isomorphism s t f) (h : s.Sound) (h' : t.Sound) {id : Int}
    (there : s.contains id = true) :
    (t.graph.neighborList (f id)).Perm ((s.graph.neighborList id).map f) := by
  have known {other : Int} (near : other ∈ s.graph.neighborList id) :
      s.contains other = true := h.contains_of_near near
  have near_iff {other : Int} (here : s.contains other = true) :
      f other ∈ t.graph.neighborList (f id) ↔ other ∈ s.graph.neighborList id := by
    rw [h'.consistent.mem_neighbors, h.consistent.mem_neighbors, iso.edges id other there here]
  refine perm_map_of_bijOn (h.consistent.neighbors_nodup id) (h'.consistent.neighbors_nodup (f id))
    ⟨fun other near => (near_iff (known near)).mpr near,
      iso.nodes.injOn.mono fun other near => known near, fun other' near => ?_⟩
  obtain ⟨other, here, rfl⟩ := iso.exists_preimage (h'.contains_of_near near)
  exact ⟨other, (near_iff here).mp near, rfl⟩

end Isomorphism

/-! ### Labels under an isomorphism -/

/-- Every node has the label of its image. -/
structure LabelledAlike (s t : Scene) (f : Int → Int) (labels labels' : Labels) : Prop where
  left : s.Labelled labels
  right : t.Labelled labels'
  same : ∀ id, s.contains id = true → labels'.get? (f id) = labels.get? id

theorem start_alike (iso : Isomorphism s t f) (digest : String → String) :
    LabelledAlike s t f (s.nodes.map fun node => digest (nodeText node))
      (t.nodes.map fun node => digest (nodeText node)) where
  left := start_labelled digest s
  right := start_labelled digest t
  same id there := by
    have there' := iso.contains_image there
    rw [contains, Catalog.contains_eq_isSome_get?] at there there'
    obtain ⟨node, found⟩ := Option.isSome_iff_exists.mp there
    obtain ⟨node', found'⟩ := Option.isSome_iff_exists.mp there'
    obtain ⟨name, attributes⟩ := iso.carries id node node' found found'
    rw [Catalog.get?_map, Catalog.get?_map, found, found']
    exact congrArg (some ∘ digest) (nodeText_eq name attributes)

theorem nextLabels_alike (iso : Isomorphism s t f) (h : s.Sound) (h' : t.Sound)
    (alike : LabelledAlike s t f labels labels') :
    ∃ next next', nextLabels digest s.graph labels = .ok next ∧
      nextLabels digest t.graph labels' = .ok next' ∧ LabelledAlike s t f next next' := by
  obtain ⟨next, done, labelled, each⟩ := nextLabels_ok h alike.left
  obtain ⟨next', done', labelled', each'⟩ := nextLabels_ok h' alike.right
  refine ⟨next, next', done, done', labelled, labelled', fun id there => ?_⟩
  have around : ((t.graph.neighborList (f id)).map fun other => (labels'.get? other).getD "").Perm
      ((s.graph.neighborList id).map fun other => (labels.get? other).getD "") := by
    refine ((iso.neighbors_perm h h' there).map _).trans (.of_eq ?_)
    rw [List.map_map]
    refine List.map_congr_left fun other near => ?_
    rw [Function.comp_apply, alike.same other (h.contains_of_near near)]
  rw [each id there, each' (f id) (iso.contains_image there), alike.same id there, sortedLine,
    sortTexts_perm around]
  rfl

theorem refine_alike (iso : Isomorphism s t f) (h : s.Sound) (h' : t.Sound)
    (alike : LabelledAlike s t f labels labels') (rounds : Nat) :
    ∃ last last', Scene.refine digest s.graph rounds labels = .ok last ∧
      Scene.refine digest t.graph rounds labels' = .ok last' ∧ LabelledAlike s t f last last' := by
  induction rounds generalizing labels labels' with
  | zero => exact ⟨labels, labels', rfl, rfl, alike⟩
  | succ rounds ih =>
    obtain ⟨next, next', first, first', later⟩ := nextLabels_alike iso h h' alike
    obtain ⟨last, last', rest, rest', alike'⟩ := ih later
    refine ⟨last, last', ?_, ?_, alike'⟩
    · rw [Scene.refine, first]
      exact rest
    · rw [Scene.refine, first']
      exact rest'

theorem LabelledAlike.values_perm (alike : LabelledAlike s t f labels labels')
    (iso : Isomorphism s t f) : labels'.values.Perm labels.values := by
  have known {id : Int} {label : String} (entry : (id, label) ∈ labels.entries) :
      s.contains id = true := by
    rw [← alike.left, Catalog.contains_iff]
    exact List.mem_map_of_mem entry
  have entries : labels'.entries.Perm (labels.entries.map fun e => (f e.1, e.2)) := by
    refine perm_map_of_bijOn labels.distinct.of_map labels'.distinct.of_map ⟨?_, ?_, ?_⟩
    · rintro ⟨id, label⟩ member
      show (f id, label) ∈ labels'.entries
      rw [← Catalog.get?_eq_some_iff, alike.same id (known member)]
      exact Catalog.get?_eq_some_iff.mpr member
    · rintro ⟨id, label⟩ member ⟨other, label'⟩ member' same
      obtain ⟨image, text⟩ := Prod.ext_iff.mp same
      exact Prod.ext (iso.nodes.injOn (known member) (known member') image) text
    · rintro ⟨id', label⟩ member
      have there : t.contains id' = true := by
        rw [← alike.right, Catalog.contains_iff]
        exact List.mem_map_of_mem member
      obtain ⟨id, here, rfl⟩ := iso.exists_preimage there
      refine ⟨(id, label), ?_, rfl⟩
      show (id, label) ∈ labels.entries
      rw [← Catalog.get?_eq_some_iff, ← alike.same id here]
      exact Catalog.get?_eq_some_iff.mpr member
  simpa [Catalog.values, Function.comp_def] using entries.map (·.2)

/-- Isomorphic scenes have the same fingerprint, whatever the digest and the number of rounds. -/
theorem fingerprint_of_isomorphism (h : s.Sound) (h' : t.Sound) (iso : Isomorphism s t f)
    (digest : String → String) (rounds : Int) :
    ∃ text, s.fingerprintWith digest rounds = .ok text ∧
      t.fingerprintWith digest rounds = .ok text := by
  obtain ⟨last, last', ran, ran', alike⟩ :=
    refine_alike iso h h' (start_alike iso digest) rounds.toNat
  refine ⟨_, fingerprintWith_of_refine ran, ?_⟩
  rw [fingerprintWith_of_refine ran', iso.order_eq h h', iso.size_eq h h', sortedLine,
    sortTexts_perm (alike.values_perm iso)]
  rfl

/-- A leaf whose size was written before its age. -/
def sizedLeaf : Node := ⟨"leaf", (Catalog.empty.put (.plain "size") (.int 1)).put "age" (.int 2)⟩

/-- The same leaf, but its age was written first. -/
def agedLeaf : Node := ⟨"leaf", (Catalog.empty.put (.plain "age") (.int 2)).put "size" (.int 1)⟩

def stem : Node := ⟨"stem", .empty⟩

theorem agedLeaf_get? (key : Spelling) : agedLeaf.get? key = sizedLeaf.get? key := by
  simp only [agedLeaf, sizedLeaf, Node.get?, Catalog.get?_put]
  split_ifs with size age
  · exact absurd (size.trans age.symm) (by decide)
  all_goals rfl

/-- A leaf on a stem, which has an edge to itself as well. -/
def leafFirst : Scene :=
  ((empty.insert sizedLeaf).2.insert stem).2
    |>.mapGraph (·.withEdge (.between 0 1))
    |>.mapGraph (·.withEdge (.between 1 1))

/-- The same, written down the other way round and in two ticks, and the leaf is the child of the
stem. -/
def stemFirst : Scene :=
  ((empty.insert stem).2.insert agedLeaf).2
    |>.mapGraph (·.withEdge (.between 0 0))
    |>.mapGraph Graph.advance
    |>.mapGraph (·.withEdge (.between 1 0))
    |>.mapGraph (·.attach 1 0)

theorem leafFirst_stemFirst_alike :
    leafFirst.Sound ∧ stemFirst.Sound ∧ Isomorphism leafFirst stemFirst (fun id => 1 - id) ∧
      ∃ text, leafFirst.fingerprint 3 = .ok text ∧ stemFirst.fingerprint 3 = .ok text := by
  have sound : leafFirst.Sound := by
    have nodes := insert_sound (insert_sound empty_sound sizedLeaf) stem
    exact withEdge_sound (withEdge_sound nodes rfl rfl) rfl rfl
  have planted : stemFirst.Planted := by
    have nodes := insert_planted (insert_planted empty_planted stem) agedLeaf
    have first : Planted _ := withEdge_planted (a := 0) (b := 0) nodes rfl rfl
    have second : Planted _ := withEdge_planted (a := 1) (b := 0) (advance_planted first) rfl rfl
    exact attach_planted second (by decide) rfl rfl
  have here {id : Int} : leafFirst.contains id = true ↔ id = 0 ∨ id = 1 := by
    rw [contains, Catalog.contains_iff, show leafFirst.nodes.keys = [0, 1] from rfl]
    simp
  have there {id : Int} : stemFirst.contains id = true ↔ id = 0 ∨ id = 1 := by
    rw [contains, Catalog.contains_iff, show stemFirst.nodes.keys = [0, 1] from rfl]
    simp
  have iso : Isomorphism leafFirst stemFirst fun id => 1 - id := {
    nodes := by
      refine ⟨fun id member => ?_, fun a _ b _ same => ?_, fun id member => ⟨1 - id, ?_, ?_⟩⟩
      · obtain rfl | rfl := here.mp member <;> exact there.mpr (by decide)
      · exact sub_right_injective same
      · obtain rfl | rfl := there.mp member <;> exact here.mpr (by decide)
      · exact sub_sub_cancel 1 id
    carries := by
      intro id node node' found found'
      have known : leafFirst.contains id = true := by
        rw [contains, Catalog.contains_eq_isSome_get?]
        exact Option.isSome_iff_exists.mpr ⟨node, found⟩
      obtain rfl | rfl := here.mp known
      · obtain rfl : sizedLeaf = node := Option.some.inj found
        obtain rfl : agedLeaf = node' := Option.some.inj found'
        exact ⟨rfl, agedLeaf_get?⟩
      · obtain rfl : stem = node := Option.some.inj found
        obtain rfl : stem = node' := Option.some.inj found'
        exact ⟨rfl, fun _ => rfl⟩
    edges := by
      intro a b first second
      obtain rfl | rfl := here.mp first <;> obtain rfl | rfl := here.mp second <;> rfl }
  exact ⟨sound, planted.toSound, iso,
    fingerprint_of_isomorphism sound planted.toSound iso Sha256.shortHex 3⟩

end Scene

end GrowthGrammar
