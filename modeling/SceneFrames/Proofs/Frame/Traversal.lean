import SceneFrames.Proofs.Frame.Climb

/-!
Traversals of a tree of frames.

A traversal passes an edge to every frame that leads to the root, once, and to a frame only
after its base. In which order it visits the frames on one base is left open. The depth-first
traversal is one: its subtrees are disjoint because a frame that leads to two others on one
base would close a circle, and no frame lies deeper than there are frames.
-/

namespace SceneFrames

open Ascent Relation

variable {P : Type} {frames : List (FrameRecord P)} {x y base : String} {depth : ℕ}

/-- Every edge starts from a known node, and makes its frame known. -/
def BasesFirst : List String → Traversal → Prop
  | _, [] => True
  | known, e :: rest => e.1 ∈ known ∧ BasesFirst (e.2 :: known) rest

/-- The edges of a tree of frames in an order in which it can be traversed from the root. -/
structure IsTraversal (frames : List (FrameRecord P)) (order : Traversal) : Prop where
  edges : ∀ e ∈ order, baseOf? frames e.2 = some e.1
  basesFirst : BasesFirst [""] order
  once : (order.map (·.2)).Nodup
  complete : ∀ name, name ≠ "" → Leads (baseOf? frames) name "" → name ∈ order.map (·.2)

namespace BasesFirst

variable {known known' : List String} {order rest : Traversal}

lemma mono (hsub : known ⊆ known') (h : BasesFirst known order) : BasesFirst known' order := by
  induction order generalizing known known' with
  | nil => trivial
  | cons e order ih => exact ⟨hsub h.1, ih (List.cons_subset_cons e.2 hsub) h.2⟩

lemma append (h : BasesFirst known order) (hrest : BasesFirst known rest) :
    BasesFirst known (order ++ rest) := by
  induction order generalizing known with
  | nil => exact hrest
  | cons e order ih => exact ⟨h.1, ih h.2 (hrest.mono (List.subset_cons_self e.2 known))⟩

lemma flatMap {α : Type} {children : α → Traversal} {l : List α}
    (h : ∀ a ∈ l, BasesFirst known (children a)) : BasesFirst known (l.flatMap children) := by
  induction l with
  | nil => trivial
  | cons a l ih =>
    rw [List.flatMap_cons]
    exact (h a (by simp)).append (ih fun b hb => h b (List.mem_cons_of_mem a hb))

end BasesFirst

/-- The frames that a traversal leads to, and the root, are the nodes. -/
lemma IsTraversal.perm_nodes {order : Traversal} (h : IsTraversal frames order)
    (hd : DistinctNodes frames)
    (hleads : ∀ x ∈ "" :: frames.map (·.name), Leads (baseOf? frames) x "") :
    ((order.map (·.2)).reverse ++ [""]).Perm ("" :: frames.map (·.name)) := by
  have hnotroot : "" ∉ order.map (·.2) := by
    intro hmem
    obtain ⟨e, he, hname⟩ := List.mem_map.mp hmem
    have hedge := h.edges e he
    rw [hname, hd.baseOf?_root] at hedge
    exact absurd hedge (by simp)
  have hnodup : ((order.map (·.2)).reverse ++ [""]).Nodup :=
    (List.nodup_reverse.mpr h.once).append (by simp)
      (List.disjoint_singleton.mpr (by simpa using hnotroot))
  refine (List.perm_ext_iff_of_nodup hnodup hd).mpr fun name => ?_
  rw [List.mem_append, List.mem_reverse, List.mem_singleton]
  constructor
  · rintro (hmem | rfl)
    · obtain ⟨e, he, rfl⟩ := List.mem_map.mp hmem
      obtain ⟨r, hr, -, -⟩ := baseOf?_eq_some_iff.mp (h.edges e he)
      exact List.mem_cons_of_mem _ (List.mem_map.mpr
        ⟨r, List.mem_of_find?_eq_some hr, name_of_findFrame hr⟩)
    · exact List.mem_cons_self
  · intro hname
    by_cases hroot : name = ""
    · exact Or.inr hroot
    · exact Or.inl (h.complete name hroot (hleads name hname))

/-! ### Loops -/

/-- What leads to the root does not lead back to itself. -/
lemma not_transGen_self {base? : String → Option String} (hroot : base? "" = none)
    (h : Leads base? x "") : ¬ TransGen (StandsOn base?) x x := by
  induction h using ReflTransGen.head_induction_on with
  | refl =>
    intro hloop
    obtain ⟨z, hz, -⟩ := TransGen.head'_iff.mp hloop
    rw [StandsOn, hroot] at hz
    exact absurd hz (by simp)
  | @head x y hxy _ ih =>
    intro hloop
    obtain ⟨z, hz, hzx⟩ := TransGen.head'_iff.mp hloop
    obtain rfl := standsOn_rightUnique hxy hz
    exact ih (TransGen.tail' hzx hxy)

/-! ### Depth first -/

/-- The edges below a base start from it or from a frame above it. -/
lemma mem_depthFirstFrom {e : String × String}
    (h : e ∈ depthFirstFrom frames (depth + 1) base) : ∃ r ∈ frames, r.relativeTo = base ∧
      (e = (base, r.name) ∨ e ∈ depthFirstFrom frames depth r.name) := by
  rw [depthFirstFrom, List.mem_flatMap] at h
  obtain ⟨r, hr, he⟩ := h
  obtain ⟨hmem, hbase⟩ := List.mem_filter.mp hr
  exact ⟨r, hmem, by simpa using hbase, List.mem_cons.mp he⟩

lemma isNode_name {r : FrameRecord P} (hr : r ∈ frames) : isNode frames r.name = true :=
  isNode_iff.mpr (List.mem_cons_of_mem _ (List.mem_map_of_mem hr))

lemma baseOf?_of_mem_depthFirstFrom (hd : DistinctNodes frames)
    (hbase : isNode frames base = true) {e : String × String}
    (h : e ∈ depthFirstFrom frames depth base) : baseOf? frames e.2 = some e.1 := by
  induction depth generalizing base with
  | zero => simp [depthFirstFrom] at h
  | succ depth ih =>
    obtain ⟨r, hr, rfl, rfl | he⟩ := mem_depthFirstFrom h
    · exact hd.standsOn hr hbase
    · exact ih (isNode_name hr) he

/-- What is visited below a base leads to it. -/
lemma leads_of_mem_depthFirstFrom (hd : DistinctNodes frames)
    (hbase : isNode frames base = true) {e : String × String}
    (h : e ∈ depthFirstFrom frames depth base) :
    TransGen (StandsOn (baseOf? frames)) e.2 base := by
  induction depth generalizing base with
  | zero => simp [depthFirstFrom] at h
  | succ depth ih =>
    obtain ⟨r, hr, rfl, rfl | he⟩ := mem_depthFirstFrom h
    · exact .single (hd.standsOn hr hbase)
    · exact (ih (isNode_name hr) he).tail (hd.standsOn hr hbase)

lemma basesFirst_depthFirstFrom {known : List String} (hbase : base ∈ known) :
    BasesFirst known (depthFirstFrom frames depth base) := by
  induction depth generalizing base known with
  | zero => trivial
  | succ depth ih => exact .flatMap fun r _ => ⟨hbase, ih (by simp)⟩

/-- The names visited below a base, subtree by subtree. -/
lemma map_depthFirstFrom : (depthFirstFrom frames (depth + 1) base).map (·.2) =
    (frames.filter (·.relativeTo == base)).flatMap fun r =>
      r.name :: (depthFirstFrom frames depth r.name).map (·.2) := by
  rw [depthFirstFrom, List.map_flatMap]
  rfl

/-- Subtrees of frames on one base are disjoint. -/
lemma eq_of_leads_of_standsOn {z : String} (hroot : baseOf? frames "" = none)
    (hbase : Leads (baseOf? frames) base "") (hx : StandsOn (baseOf? frames) x base)
    (hy : StandsOn (baseOf? frames) y base) (hzx : Leads (baseOf? frames) z x)
    (hzy : Leads (baseOf? frames) z y) : x = y := by
  have key : ∀ {x y : String}, StandsOn (baseOf? frames) x base →
      StandsOn (baseOf? frames) y base → Leads (baseOf? frames) x y → y = x := by
    intro x y hx hy hxy
    rcases hxy.of_standsOn hx with h | h
    · exact h
    · exact absurd (TransGen.tail' h hy) (not_transGen_self hroot hbase)
  rcases hzx.total hzy with h | h
  · exact (key hx hy h).symm
  · exact key hy hx h

lemma nodup_depthFirstFrom (hd : DistinctNodes frames) (hnode : isNode frames base = true)
    (hbase : Leads (baseOf? frames) base "") :
    ((depthFirstFrom frames depth base).map (·.2)).Nodup := by
  induction depth generalizing base with
  | zero => simp [depthFirstFrom]
  | succ depth ih =>
    have hstands : ∀ r ∈ frames.filter (·.relativeTo == base),
        StandsOn (baseOf? frames) r.name base := by
      intro r hr
      obtain ⟨hmem, hrel⟩ := List.mem_filter.mp hr
      obtain rfl : r.relativeTo = base := by simpa using hrel
      exact hd.standsOn hmem hnode
    have hbelow : ∀ r ∈ frames.filter (·.relativeTo == base),
        ∀ z ∈ r.name :: (depthFirstFrom frames depth r.name).map (·.2),
          Leads (baseOf? frames) z r.name := by
      intro r hr z hz
      rcases List.mem_cons.mp hz with rfl | hz'
      · exact .refl
      · obtain ⟨e, he, rfl⟩ := List.mem_map.mp hz'
        have hr' := isNode_name (List.mem_of_mem_filter hr)
        exact (leads_of_mem_depthFirstFrom hd hr' he).to_reflTransGen
    have hnames : (frames.filter (·.relativeTo == base)).Pairwise (·.name ≠ ·.name) :=
      (List.pairwise_map.mp (List.nodup_cons.mp hd).2).filter _
    rw [map_depthFirstFrom, List.nodup_flatMap]
    refine ⟨fun r hr => ?_, hnames.imp_of_mem fun {r s} hr hs hne z hzr hzs => hne ?_⟩
    · have hr' := isNode_name (List.mem_of_mem_filter hr)
      have hleads : Leads (baseOf? frames) r.name "" := hbase.head (hstands r hr)
      refine List.nodup_cons.mpr ⟨fun hmem => ?_, ih hr' hleads⟩
      obtain ⟨e, he, her⟩ := List.mem_map.mp hmem
      have hloop := leads_of_mem_depthFirstFrom hd hr' he
      rw [her] at hloop
      exact not_transGen_self hd.baseOf?_root hleads hloop
    · exact eq_of_leads_of_standsOn hd.baseOf?_root hbase (hstands r hr) (hstands s hs)
        (hbelow r hr z hzr) (hbelow s hs z hzs)

/-- A climb that comes to a base within the depth starts below it. -/
lemma mem_depthFirstFrom_of_climbs {init rs : List (FrameRecord P)} {r : FrameRecord P}
    (h : Climbs frames x (init ++ r :: rs)) (hlen : init.length < depth) :
    x ∈ (depthFirstFrom frames depth r.relativeTo).map (·.2) := by
  induction depth generalizing init r rs with
  | zero => omega
  | succ depth ih =>
    have hr : r ∈ frames := h.subset (by simp)
    rw [map_depthFirstFrom, List.mem_flatMap]
    refine ⟨r, List.mem_filter.mpr ⟨hr, by simp⟩, ?_⟩
    rcases List.eq_nil_or_concat' init with rfl | ⟨lower, s, rfl⟩
    · rw [← h.name_eq]
      exact List.mem_cons_self
    · have h' : Climbs frames x (lower ++ s :: r :: rs) := by simpa using h
      have hs : s.relativeTo = r.name := h'.drop.tail.name_eq.symm
      have hmem := ih h' (by simp at hlen; omega)
      rw [hs] at hmem
      exact List.mem_cons_of_mem _ hmem

/-- **The depth-first order is a traversal**, whether or not all frames lead to the root. -/
theorem isTraversal_depthFirst (hd : DistinctNodes frames) :
    IsTraversal frames (depthFirst frames) where
  edges _ := baseOf?_of_mem_depthFirstFrom hd (by simp [isNode])
  basesFirst := basesFirst_depthFirstFrom (by simp)
  once := nodup_depthFirstFrom hd (by simp [isNode]) .refl
  complete name hne hleads := by
    obtain ⟨rs, hrs⟩ := exists_climbs hleads
    have hlen := hrs.length_le hd
    rcases List.eq_nil_or_concat' rs with rfl | ⟨init, r, rfl⟩
    · exact absurd hrs.eq_root hne
    · have htop : r.relativeTo = "" := hrs.drop.tail.eq_root
      rw [depthFirst, ← htop]
      exact mem_depthFirstFrom_of_climbs hrs (by simp at hlen; omega)

/-- A way to traverse every tree of frames, whatever its frames. -/
def Traverses (traverse : List (FrameRecord P) → Traversal) : Prop :=
  ∀ frames, DistinctNodes frames → IsTraversal frames (traverse frames)

lemma traverses_depthFirst : Traverses (depthFirst (P := P)) := fun _ => isTraversal_depthFirst

end SceneFrames
