import SceneFrames.Proofs.Markup.Asides

/-!
Lines above a document.

How many lines stand above what a document holds after its opening is told to the scan of an
element, and only the lines of elements keep it. So the tree of a document is the same but for
lines wherever that starts.
-/

namespace SceneFrames.Markup

namespace Node

lemma unlinedAll_append (ns ms : List Node) :
    unlinedAll (ns ++ ms) = unlinedAll ns ++ unlinedAll ms := by
  induction ns with
  | nil => rfl
  | cons n ns ih => simp [unlinedAll, ih]

lemma unlinedAll_reverse (ns : List Node) : unlinedAll ns.reverse = (unlinedAll ns).reverse := by
  induction ns with
  | nil => rfl
  | cons n ns ih => simp [unlinedAll, unlinedAll_append, ih]

end Node

namespace Scan

open Node

variable {α β γ δ : Type} {d : Subset} {above above' : Nat}

/-! ### Scans that find the same image -/

variable {g : β → γ} {k : α → δ} {m m' : Scan α} {f f' : α → Scan β}

lemma map_bind_congr (hf : ∀ a, g <$> f a = g <$> f' a) : g <$> (m >>= f) = g <$> (m >>= f') := by
  rw [map_bind, map_bind]
  exact bind_congr hf

/-- A step that sees only an image of what was found before goes on alike from scans that find
the same image. -/
lemma map_bind_congr_map (hm : k <$> m = k <$> m')
    (hf : ∀ a a', k a = k a' → g <$> f a = g <$> f' a') :
    g <$> (m >>= f) = g <$> (m' >>= f') := by
  have hfactors : Function.FactorsThrough (fun a => g <$> f a) k :=
    fun a a' h => (hf a a' h).trans (hf a' a' rfl).symm
  have : Nonempty (Scan γ) := ⟨failure⟩
  obtain ⟨next, hnext⟩ := (Function.factorsThrough_iff _).mp hfactors
  calc g <$> (m >>= f) = m >>= (next ∘ k) := by rw [map_bind, hnext]
    _ = (k <$> m) >>= next := (bind_map_left k m next).symm
    _ = m' >>= (next ∘ k) := by rw [hm]; exact bind_map_left k m' next
    _ = g <$> (m' >>= f) := by rw [map_bind, hnext]
    _ = g <$> (m' >>= f') := map_bind_congr fun a => hf a a rfl

/-! ### Elements and content -/

/-- The tree of an element does not keep the lines above it, if what is inside does not. -/
lemma unlined_elementRest {content content' : Nat → Bindings → Scan (List Node)}
    (h : ∀ level bs, unlinedAll <$> content level bs = unlinedAll <$> content' level bs)
    (level : Nat) (bs : Bindings) :
    unlined <$> elementRest d above content level bs =
      unlined <$> elementRest d above' content' level bs := by
  refine map_bind_congr fun tag => map_bind_congr fun _ => ?_
  split
  · simp [unlined]
  · refine map_bind_congr_map (h _ _) fun ns ns' hns => map_bind_congr fun _ => ?_
    simp [unlined, hns]

/-- The nodes that were taken before may differ in lines as well. -/
lemma unlinedAll_nodes (expand : Nat → String → Scan (List Node)) (fuel : Nat)
    {acc acc' : List Node} (hacc : unlinedAll acc = unlinedAll acc') (level : Nat)
    (bs : Bindings) : unlinedAll <$> nodes d above expand fuel acc level bs =
      unlinedAll <$> nodes d above' expand fuel acc' level bs := by
  induction fuel generalizing acc acc' level bs with
  | zero => rfl
  | succ fuel ih =>
    have hcons (n : Node) : unlinedAll (n :: acc) = unlinedAll (n :: acc') := by
      rw [unlinedAll, unlinedAll, hacc]
    refine map_bind_congr fun _ => map_bind_congr fun _ => ?_
    split
    · simp [unlinedAll_reverse, hacc]
    refine map_bind_congr fun _ => ?_
    split
    · exact map_bind_congr fun _ => ih (hcons _) level bs
    refine map_bind_congr fun _ => ?_
    split
    · exact map_bind_congr fun _ => ih (hcons _) level bs
    refine map_bind_congr fun _ => ?_
    split
    · exact map_bind_congr fun _ => ih (hcons _) level bs
    refine map_bind_congr fun _ => ?_
    split
    -- only elements have lines, and those inside are found with the same fuel
    · refine map_bind_congr_map (unlined_elementRest (fun level bs => ih rfl level bs) level bs)
        fun n n' hn => ih ?_ level bs
      rw [unlinedAll, unlinedAll, hn, hacc]
    refine map_bind_congr fun _ => ?_
    split
    · refine map_bind_congr fun reference => ?_
      cases reference with
      | character c => exact ih (hcons _) level bs
      | entity name =>
        refine map_bind_congr fun ns => ih ?_ level bs
        rw [unlinedAll_append, unlinedAll_append, hacc]
    · exact map_bind_congr fun _ => ih (hcons _) level bs

lemma unlinedAll_content (depth level : Nat) (bs : Bindings) :
    unlinedAll <$> content d depth above level bs =
      unlinedAll <$> content d depth above' level bs := by
  cases depth with
  | zero => rfl
  | succ depth => exact map_bind_congr fun _ => unlinedAll_nodes _ _ rfl level bs

lemma unlined_tree (above above' : Nat) (alone : Bool) :
    unlined <$> tree above alone = unlined <$> tree above' alone := by
  refine map_bind_congr fun _ => map_bind_congr fun d => map_bind_congr fun _ =>
    map_bind_congr fun _ => ?_
  refine map_bind_congr_map (unlined_elementRest (unlinedAll_content _) _ _) fun n n' hn => ?_
  refine map_bind_congr fun _ => map_bind_congr fun _ => map_bind_congr fun _ => ?_
  simp [hn]

lemma unlined_document (declared : Bool) (above above' : Nat) :
    unlined <$> document declared above = unlined <$> document declared above' := by
  cases declared with
  | true => exact map_bind_congr fun alone => unlined_tree above above' alone
  | false => exact unlined_tree above above' false

/-- An image of what a scan finds is what its image finds. -/
lemma map_outcome? (m : Scan α) (k : α → δ) (s : ScanState) :
    (m.outcome? s).map k = (k <$> m).outcome? s := by
  rw [outcome?, outcome?, StateT.run_map]
  cases m.run s with
  | none => rfl
  | some found =>
    rw [Option.bind_some, Option.map_eq_map, Option.map_some, Option.bind_some]
    cases found.2.faulty <;> rfl

end Scan

/-- The tree of a document is the same but for lines whatever stands above it. -/
lemma unlined_node? (declared : Bool) (above above' : Nat) (text : List Char) :
    (node? declared above text).map Node.unlined =
      (node? declared above' text).map Node.unlined := by
  rw [node?, node?]
  split
  · rw [Scan.map_outcome?, Scan.map_outcome?, Scan.unlined_document declared above above']
  · rfl

/-- The elements of a document are the same but for lines whatever stands above it. -/
lemma unlined_elements (declared : Bool) (above above' : Nat) (text : List Char) :
    ((node? declared above text).bind Node.toElement?).map Element.unlined =
      ((node? declared above' text).bind Node.toElement?).map Element.unlined := by
  have helement (above : Nat) :
      ((node? declared above text).bind Node.toElement?).map Element.unlined =
        ((node? declared above text).map Node.unlined).bind Node.toElement? := by
    cases node? declared above text with
    | none => rfl
    | some n => exact (Node.toElement?_unlined n).symm
  rw [helement, helement, unlined_node? declared above above']

end SceneFrames.Markup
