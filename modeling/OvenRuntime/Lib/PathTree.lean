/-
  Lib.PathTree
  ────────────
  Trees listed as frames: every node once, in preorder, under its path.  A path
  is the list of keys and indices from the root down, joined by a separator.
  A sequence says how many items it has, a map does not say how many entries.

    • `frames_injective`: where no key is spelled as a path below another key,
      equal listings come from equal trees,
    • `exists_collision`: where some key is, two different trees have one
      listing.
-/
import Mathlib.Data.List.Basic
import Mathlib.Data.Set.Basic

namespace PathTree

/-! ## §1. Trees and their listings. -/

/-- A tree with leaves in `β` and map keys over the letters `α`. -/
inductive Tree (α β : Type) where
  | leaf (b : β)
  | seq (items : List (Tree α β))
  | map (entries : List (List α × Tree α β))

/-- What a listing shows of one node. -/
inductive Head (β : Type) where
  | leaf (b : β)
  | seq (n : Nat)
  | map
  deriving DecidableEq

section Listing

variable {α β : Type} (sep : α) (idx : Nat → List α)

mutual

/-- The listing of a tree at a path. -/
def frames : Tree α β → List α → List (List α × Head β)
  | .leaf b, p => [(p, .leaf b)]
  | .seq ts, p => (p, .seq ts.length) :: itemFrames ts p 0
  | .map es, p => (p, .map) :: entriesFrames es p

/-- The listing of the items from index `i` on. -/
def itemFrames : List (Tree α β) → List α → Nat → List (List α × Head β)
  | [], _, _ => []
  | t :: ts, p, i => frames t (p ++ sep :: idx i) ++ itemFrames ts p (i + 1)

/-- The listing of the entries of a map. -/
def entriesFrames : List (List α × Tree α β) → List α → List (List α × Head β)
  | [], _ => []
  | e :: es, p => entryFrames e p ++ entriesFrames es p

/-- The listing of one entry. -/
def entryFrames : List α × Tree α β → List α → List (List α × Head β)
  | (k, t), p => frames t (p ++ sep :: k)

end

/-- The head of the root. -/
def Tree.head : Tree α β → Head β
  | .leaf b => .leaf b
  | .seq ts => .seq ts.length
  | .map _ => .map

/-- A listing starts with the root, under the path given. -/
theorem frames_eq_cons (t : Tree α β) (p : List α) :
    ∃ rest, frames sep idx t p = (p, t.head) :: rest := by
  cases t with
  | leaf b => exact ⟨[], rfl⟩
  | seq ts => exact ⟨itemFrames sep idx ts p 0, rfl⟩
  | map es => exact ⟨entriesFrames sep idx es p, rfl⟩

/-- The entries of a map are listed one after the other. -/
theorem entriesFrames_eq (es : List (List α × Tree α β)) (p : List α) :
    entriesFrames sep idx es p = es.flatMap fun e => frames sep idx e.2 (p ++ sep :: e.1) := by
  induction es with
  | nil => rfl
  | cons e es ih =>
      unfold entriesFrames entryFrames
      rw [ih, List.flatMap_cons]

mutual

/-- The keys lie in `K` and the leaves in `L`. -/
def Over (K : Set (List α)) (L : Set β) : Tree α β → Prop
  | .leaf b => b ∈ L
  | .seq ts => ItemsOver K L ts
  | .map es => EntriesOver K L es

def ItemsOver (K : Set (List α)) (L : Set β) : List (Tree α β) → Prop
  | [] => True
  | t :: ts => Over K L t ∧ ItemsOver K L ts

def EntriesOver (K : Set (List α)) (L : Set β) : List (List α × Tree α β) → Prop
  | [] => True
  | e :: es => EntryOver K L e ∧ EntriesOver K L es

def EntryOver (K : Set (List α)) (L : Set β) : List α × Tree α β → Prop
  | (k, t) => k ∈ K ∧ Over K L t

end

theorem itemsOver_iff {K : Set (List α)} {L : Set β} {ts : List (Tree α β)} :
    ItemsOver K L ts ↔ ∀ t ∈ ts, Over K L t := by
  induction ts with
  | nil => simp [ItemsOver]
  | cons t ts ih =>
      unfold ItemsOver
      rw [ih, List.forall_mem_cons]

theorem entriesOver_iff {K : Set (List α)} {L : Set β} {es : List (List α × Tree α β)} :
    EntriesOver K L es ↔ ∀ e ∈ es, e.1 ∈ K ∧ Over K L e.2 := by
  induction es with
  | nil => simp [EntriesOver]
  | cons e es ih =>
      unfold EntriesOver EntryOver
      rw [ih, List.forall_mem_cons]

/-! ## §2. Trails: what a path can spell below a node. -/

/-- The spellings of the paths below a node that can be the last frame of some
listing: an item of a sequence is announced by its count, an entry of a map is
not. -/
inductive Trail (K : Set (List α)) : List α → Prop
  | key {k : List α} (hk : k ∈ K) : Trail K k
  | under {k q : List α} (hk : k ∈ K) (hq : Trail K q) : Trail K (k ++ sep :: q)
  | item {i : Nat} {q : List α} (hq : Trail K q) : Trail K (idx i ++ sep :: q)

/-- No key is spelled like a path below another key. -/
def Unambiguous (K : Set (List α)) : Prop :=
  ∀ k ∈ K, ∀ q, Trail sep idx K q → k ++ sep :: q ∉ K

/-- The frames that follow could still belong below `p`. -/
def Continues (K : Set (List α)) (p : List α) (X : List (List α × Head β)) : Prop :=
  ∃ f, X.head? = some f ∧ ∃ q, Trail sep idx K q ∧ f.1 = p ++ sep :: q

variable {sep idx}

theorem not_continues_nil {K : Set (List α)} {p : List α} :
    ¬ Continues sep idx K p ([] : List (List α × Head β)) := by
  intro h
  obtain ⟨f, hf, -⟩ := h
  exact absurd hf (by simp)

theorem continues_cons {K : Set (List α)} {p r : List α} {h : Head β}
    {X : List (List α × Head β)} :
    Continues sep idx K p ((r, h) :: X) ↔ ∃ q, Trail sep idx K q ∧ r = p ++ sep :: q := by
  unfold Continues
  simp

/-- What follows the last entry cannot belong below that entry. -/
theorem Continues.up_key {K : Set (List α)} {p k : List α} {X : List (List α × Head β)}
    (hk : k ∈ K) (h : Continues sep idx K (p ++ sep :: k) X) : Continues sep idx K p X := by
  obtain ⟨f, hf, q, hq, hpath⟩ := h
  refine ⟨f, hf, k ++ sep :: q, Trail.under hk hq, ?_⟩
  rw [hpath, List.append_assoc, List.cons_append]

theorem Continues.up_item {K : Set (List α)} {p : List α} {i : Nat}
    {X : List (List α × Head β)} (h : Continues sep idx K (p ++ sep :: idx i) X) :
    Continues sep idx K p X := by
  obtain ⟨f, hf, q, hq, hpath⟩ := h
  refine ⟨f, hf, idx i ++ sep :: q, Trail.item hq, ?_⟩
  rw [hpath, List.append_assoc, List.cons_append]

/-- The next item does not belong below this one: no index spells a separator. -/
theorem not_continues_items {K : Set (List α)} (hsep : ∀ i, sep ∉ idx i) {p : List α} {i : Nat}
    (ts : List (Tree α β)) {X : List (List α × Head β)} (hX : ¬ Continues sep idx K p X) :
    ¬ Continues sep idx K (p ++ sep :: idx i) (itemFrames sep idx ts p (i + 1) ++ X) := by
  cases ts with
  | nil =>
      intro h
      exact hX h.up_item
  | cons t ts =>
      obtain ⟨rest, hrest⟩ := frames_eq_cons sep idx t (p ++ sep :: idx (i + 1))
      unfold itemFrames
      rw [hrest, List.cons_append, List.cons_append, continues_cons]
      intro h
      obtain ⟨q, -, hq⟩ := h
      simp only [List.append_assoc, List.append_cancel_left_eq, List.cons_append,
        List.cons.injEq, true_and] at hq
      apply hsep (i + 1)
      rw [hq]
      exact List.mem_append_right _ (List.mem_cons_self ..)

/-- The next entry does not belong below this one. -/
theorem not_continues_entries {K : Set (List α)} {L : Set β} (hK : Unambiguous sep idx K)
    {p k : List α} (hk : k ∈ K) (es : List (List α × Tree α β)) (hes : EntriesOver K L es)
    {X : List (List α × Head β)} (hX : ¬ Continues sep idx K p X) :
    ¬ Continues sep idx K (p ++ sep :: k) (entriesFrames sep idx es p ++ X) := by
  match es with
  | [] =>
      intro h
      exact hX (h.up_key hk)
  | (k', t) :: es =>
      obtain ⟨rest, hrest⟩ := frames_eq_cons sep idx t (p ++ sep :: k')
      unfold entriesFrames entryFrames
      rw [hrest, List.cons_append, List.cons_append, continues_cons]
      intro h
      obtain ⟨q, htrail, hq⟩ := h
      simp only [List.append_assoc, List.append_cancel_left_eq, List.cons_append,
        List.cons.injEq, true_and] at hq
      unfold EntriesOver EntryOver at hes
      apply hK k hk q htrail
      rw [← hq]
      exact hes.1.1

/-! ## §3. Listings of an unambiguous vocabulary. -/

variable {K : Set (List α)} {L : Set β}

mutual

/-- A listing at the head of a stream is determined, where what follows it does
not continue it. -/
theorem frames_append_inj (hsep : ∀ i, sep ∉ idx i) (hK : Unambiguous sep idx K) :
    ∀ (t t' : Tree α β) (p : List α) (X X' : List (List α × Head β)),
      Over K L t → Over K L t' → ¬ Continues sep idx K p X → ¬ Continues sep idx K p X' →
      frames sep idx t p ++ X = frames sep idx t' p ++ X' → t = t' ∧ X = X'
  | .leaf b, t', p, X, X', _, _, _, _, h => by
      cases t' with
      | leaf b' =>
          simp only [frames, List.cons_append, List.nil_append, List.cons.injEq, Prod.mk.injEq,
            Head.leaf.injEq, true_and] at h
          exact ⟨by rw [h.1], h.2⟩
      | seq ts' => simp [frames] at h
      | map es' => simp [frames] at h
  | .seq ts, t', p, X, X', ht, ht', hX, hX', h => by
      cases t' with
      | leaf b' => simp [frames] at h
      | seq ts' =>
          simp only [frames, List.cons_append, List.cons.injEq, Prod.mk.injEq, Head.seq.injEq,
            true_and] at h
          have hitems := itemFrames_append_inj hsep hK ts ts' p 0 X X' ht ht' hX hX' h.1 h.2
          exact ⟨by rw [hitems.1], hitems.2⟩
      | map es' => simp [frames] at h
  | .map es, t', p, X, X', ht, ht', hX, hX', h => by
      cases t' with
      | leaf b' => simp [frames] at h
      | seq ts' => simp [frames] at h
      | map es' =>
          simp only [frames, List.cons_append, List.cons.injEq, true_and] at h
          have hentries := entriesFrames_append_inj hsep hK es es' p X X' ht ht' hX hX' h
          exact ⟨by rw [hentries.1], hentries.2⟩

theorem itemFrames_append_inj (hsep : ∀ i, sep ∉ idx i) (hK : Unambiguous sep idx K) :
    ∀ (ts ts' : List (Tree α β)) (p : List α) (i : Nat) (X X' : List (List α × Head β)),
      ItemsOver K L ts → ItemsOver K L ts' → ¬ Continues sep idx K p X →
      ¬ Continues sep idx K p X' → ts.length = ts'.length →
      itemFrames sep idx ts p i ++ X = itemFrames sep idx ts' p i ++ X' → ts = ts' ∧ X = X'
  | [], ts', p, i, X, X', _, _, _, _, hlen, h => by
      have hnil : ts' = [] := List.length_eq_zero_iff.mp hlen.symm
      subst hnil
      exact ⟨rfl, h⟩
  | t :: ts, [], _, _, _, _, _, _, _, _, hlen, _ => absurd hlen (by simp)
  | t :: ts, t' :: ts', p, i, X, X', ht, ht', hX, hX', hlen, h => by
      unfold itemFrames at h
      rw [List.append_assoc, List.append_assoc] at h
      unfold ItemsOver at ht ht'
      have hhead := frames_append_inj hsep hK t t' _ _ _ ht.1 ht'.1
        (not_continues_items hsep ts hX) (not_continues_items hsep ts' hX') h
      have hlen' : ts.length = ts'.length := by simpa using hlen
      have htail := itemFrames_append_inj hsep hK ts ts' p (i + 1) X X' ht.2 ht'.2 hX hX' hlen'
        hhead.2
      exact ⟨by rw [hhead.1, htail.1], htail.2⟩

theorem entriesFrames_append_inj (hsep : ∀ i, sep ∉ idx i) (hK : Unambiguous sep idx K) :
    ∀ (es es' : List (List α × Tree α β)) (p : List α) (X X' : List (List α × Head β)),
      EntriesOver K L es → EntriesOver K L es' → ¬ Continues sep idx K p X →
      ¬ Continues sep idx K p X' →
      entriesFrames sep idx es p ++ X = entriesFrames sep idx es' p ++ X' → es = es' ∧ X = X'
  | [], [], _, _, _, _, _, _, _, h => ⟨rfl, h⟩
  | [], (k', t') :: es', p, X, X', _, hes', hX, _, h => by
      -- the other map goes on, so what follows this one would continue it
      obtain ⟨rest, hrest⟩ := frames_eq_cons sep idx t' (p ++ sep :: k')
      unfold entriesFrames entryFrames at h
      rw [hrest, List.nil_append] at h
      unfold EntriesOver EntryOver at hes'
      rw [h] at hX
      exact absurd (continues_cons.mpr ⟨k', Trail.key hes'.1.1, rfl⟩) hX
  | (k, t) :: es, [], p, X, X', hes, _, _, hX', h => by
      obtain ⟨rest, hrest⟩ := frames_eq_cons sep idx t (p ++ sep :: k)
      unfold entriesFrames entryFrames at h
      rw [hrest, List.nil_append] at h
      unfold EntriesOver EntryOver at hes
      rw [← h] at hX'
      exact absurd (continues_cons.mpr ⟨k, Trail.key hes.1.1, rfl⟩) hX'
  | (k, t) :: es, (k', t') :: es', p, X, X', hes, hes', hX, hX', h => by
      unfold entriesFrames entryFrames at h
      rw [List.append_assoc, List.append_assoc] at h
      unfold EntriesOver EntryOver at hes hes'
      have hkey : k = k' := by
        obtain ⟨rest, hrest⟩ := frames_eq_cons sep idx t (p ++ sep :: k)
        obtain ⟨rest', hrest'⟩ := frames_eq_cons sep idx t' (p ++ sep :: k')
        rw [hrest, hrest', List.cons_append, List.cons_append] at h
        have hpath := (Prod.mk.inj (List.cons.inj h).1).1
        exact (List.cons.inj (List.append_cancel_left hpath)).2
      subst hkey
      have hhead := frames_append_inj hsep hK t t' _ _ _ hes.1.2 hes'.1.2
        (not_continues_entries hK hes.1.1 es hes.2 hX)
        (not_continues_entries hK hes.1.1 es' hes'.2 hX') h
      have htail := entriesFrames_append_inj hsep hK es es' p X X' hes.2 hes'.2 hX hX' hhead.2
      exact ⟨by rw [hhead.1, htail.1], htail.2⟩

end

/-- **Over an unambiguous vocabulary the listing determines the tree.** -/
theorem frames_injective (hsep : ∀ i, sep ∉ idx i) (hK : Unambiguous sep idx K)
    {t t' : Tree α β} {p : List α} (ht : Over K L t) (ht' : Over K L t')
    (h : frames sep idx t p = frames sep idx t' p) : t = t' := by
  have happ : frames sep idx t p ++ [] = frames sep idx t' p ++ [] := by rw [h]
  exact (frames_append_inj hsep hK t t' p [] [] ht ht' not_continues_nil not_continues_nil
    happ).1

/-! ## §4. Listings of an ambiguous vocabulary. -/

variable (sep idx) in
/-- The paths a stream can carry: with a path also those above it, and with an
item also those before it. -/
structure PathBound (Small : List α → Prop) : Prop where
  init : ∀ {p r : List α}, Small (p ++ r) → Small p
  index : ∀ {p : List α} {i j : Nat}, j ≤ i → Small (p ++ sep :: idx i) →
    Small (p ++ sep :: idx j)

variable (sep idx) in
/-- A frame with a path that can be carried, with the leaf `b` if it is one, and
with a count whose last item has such a path. -/
structure Carried (Small : List α → Prop) (b : β) (f : List α × Head β) : Prop where
  path : Small f.1
  leaf : ∀ c, f.2 = .leaf c → c = b
  seq : ∀ n, f.2 = .seq n → ∃ (i : Nat) (r : List α), n = i + 1 ∧ Small (r ++ sep :: idx i)

/-- A tree with one branch, the leaves before it and nothing after it. -/
inductive Spine (K : Set (List α)) (b : β) : Tree α β → Prop
  | leaf : Spine K b (.leaf b)
  | empty : Spine K b (.map [])
  | entry {k : List α} {t : Tree α β} (hk : k ∈ K) (ht : Spine K b t) : Spine K b (.map [(k, t)])
  | items {i : Nat} {t : Tree α β} (ht : Spine K b t) :
      Spine K b (.seq (List.replicate i (.leaf b) ++ [t]))

theorem itemFrames_append (ts ts' : List (Tree α β)) (p : List α) (i : Nat) :
    itemFrames sep idx (ts ++ ts') p i
      = itemFrames sep idx ts p i ++ itemFrames sep idx ts' p (i + ts.length) := by
  induction ts generalizing i with
  | nil => rfl
  | cons t ts ih =>
      show frames sep idx t _ ++ itemFrames sep idx (ts ++ ts') p (i + 1) = _
      rw [ih]
      show _ = (frames sep idx t _ ++ itemFrames sep idx ts p (i + 1)) ++ _
      rw [List.append_assoc, List.length_cons]
      have hnext : i + 1 + ts.length = i + (ts.length + 1) := by omega
      rw [hnext]

/-- The listing of leaves before the branch. -/
theorem mem_itemFrames_replicate {b : β} {n : Nat} {p : List α} {i : Nat}
    {f : List α × Head β} (hf : f ∈ itemFrames sep idx (List.replicate n (.leaf b)) p i) :
    ∃ j, j < i + n ∧ f = (p ++ sep :: idx j, .leaf b) := by
  induction n generalizing i with
  | zero => exact absurd hf (by simp [itemFrames])
  | succ n ih =>
      rw [List.replicate_succ] at hf
      unfold itemFrames frames at hf
      rw [List.singleton_append, List.mem_cons] at hf
      by_cases heq : f = (p ++ sep :: idx i, .leaf b)
      · exact ⟨i, by omega, heq⟩
      · obtain ⟨j, hj, hfj⟩ := ih (hf.resolve_left heq)
        exact ⟨j, by omega, hfj⟩

/-- Along every trail there are two spines whose listings differ by the one
frame at its end. -/
theorem exists_spine {Small : List α → Prop} (hS : PathBound sep idx Small) (b : β)
    {q : List α} (hq : Trail sep idx K q) :
    ∃ t t' : Tree α β, Spine K b t ∧ Spine K b t' ∧ ∀ p,
      frames sep idx t p = frames sep idx t' p ++ [(p ++ sep :: q, .leaf b)] ∧
      (Small (p ++ sep :: q) → ∀ f ∈ frames sep idx t p, Carried sep idx Small b f) := by
  induction hq with
  | @key k hk =>
      refine ⟨.map [(k, .leaf b)], .map [], Spine.entry hk Spine.leaf, Spine.empty, ?_⟩
      intro p
      refine ⟨rfl, ?_⟩
      intro hsmall f hf
      have hf : f ∈ [(p, Head.map), (p ++ sep :: k, .leaf b)] := hf
      rw [List.mem_cons, List.mem_singleton] at hf
      apply hf.elim
      · intro hroot
        rw [hroot]
        exact ⟨hS.init hsmall, fun c hc => absurd hc (by simp), fun n hn => absurd hn (by simp)⟩
      · intro hleaf
        rw [hleaf]
        exact ⟨hsmall, fun c hc => (Head.leaf.inj hc).symm, fun n hn => absurd hn (by simp)⟩
  | @under k q hk hq ih =>
      obtain ⟨t, t', ht, ht', hframes⟩ := ih
      refine ⟨.map [(k, t)], .map [(k, t')], Spine.entry hk ht, Spine.entry hk ht', ?_⟩
      intro p
      have hbelow := hframes (p ++ sep :: k)
      have hpath : p ++ sep :: k ++ sep :: q = p ++ sep :: (k ++ sep :: q) := by
        rw [List.append_assoc, List.cons_append]
      rw [hpath] at hbelow
      constructor
      · show (p, Head.map) :: (frames sep idx t (p ++ sep :: k) ++ [])
            = (p, Head.map) :: (frames sep idx t' (p ++ sep :: k) ++ []) ++ _
        rw [List.append_nil, List.append_nil, hbelow.1, List.cons_append]
      · intro hsmall f hf
        have hf : f ∈ (p, Head.map) :: (frames sep idx t (p ++ sep :: k) ++ []) := hf
        rw [List.append_nil, List.mem_cons] at hf
        apply hf.elim
        · intro hroot
          rw [hroot]
          exact ⟨hS.init hsmall, fun c hc => absurd hc (by simp), fun n hn => absurd hn (by simp)⟩
        · intro hin
          exact hbelow.2 hsmall f hin
  | @item i q hq ih =>
      obtain ⟨t, t', ht, ht', hframes⟩ := ih
      refine ⟨.seq (List.replicate i (.leaf b) ++ [t]), .seq (List.replicate i (.leaf b) ++ [t']),
        Spine.items ht, Spine.items ht', ?_⟩
      intro p
      have hbelow := hframes (p ++ sep :: idx i)
      have hpath : p ++ sep :: idx i ++ sep :: q = p ++ sep :: (idx i ++ sep :: q) := by
        rw [List.append_assoc, List.cons_append]
      rw [hpath] at hbelow
      have hlist : ∀ u : Tree α β, frames sep idx (.seq (List.replicate i (.leaf b) ++ [u])) p
          = (p, .seq (i + 1)) :: (itemFrames sep idx (List.replicate i (.leaf b)) p 0
              ++ frames sep idx u (p ++ sep :: idx i)) := by
        intro u
        show (p, Head.seq (List.replicate i (Tree.leaf b) ++ [u]).length) ::
          itemFrames sep idx (List.replicate i (.leaf b) ++ [u]) p 0 = _
        rw [itemFrames_append, List.length_append, List.length_replicate, Nat.zero_add]
        show _ :: (_ ++ (frames sep idx u (p ++ sep :: idx i) ++ [])) = _
        rw [List.append_nil, List.length_singleton]
      constructor
      · rw [hlist, hlist, hbelow.1, List.cons_append, List.append_assoc]
      · intro hsmall f hf
        rw [hlist, List.mem_cons, List.mem_append] at hf
        have hitem : Small (p ++ sep :: idx i) := by
          rw [← hpath] at hsmall
          exact hS.init hsmall
        apply hf.elim
        · intro hroot
          rw [hroot]
          refine ⟨hS.init hsmall, fun c hc => absurd hc (by simp), ?_⟩
          intro n hn
          exact ⟨i, p, (Head.seq.inj hn).symm, hitem⟩
        · intro hrest
          apply hrest.elim
          · intro hleaf
            obtain ⟨j, hj, hfj⟩ := mem_itemFrames_replicate hleaf
            rw [hfj]
            exact ⟨hS.index (by omega) hitem, fun c hc => (Head.leaf.inj hc).symm,
              fun n hn => absurd hn (by simp)⟩
          · intro hin
            exact hbelow.2 hsmall f hin

/-- **An ambiguous vocabulary has a collision**: the entry spelled like a path
below the other entry takes the place of the end of a branch. -/
theorem exists_collision {Small : List α → Prop} (hS : PathBound sep idx Small) (b : β)
    (hK : ¬ Unambiguous sep idx K) :
    ∃ (k q : List α) (t t' : Tree α β), k ∈ K ∧ k ++ sep :: q ∈ K ∧ Spine K b t ∧ Spine K b t' ∧
      ∀ p, frames sep idx (.map [(k, t)]) p
          = frames sep idx (.map [(k, t'), (k ++ sep :: q, .leaf b)]) p ∧
        (Small (p ++ sep :: (k ++ sep :: q)) →
          ∀ f ∈ frames sep idx (.map [(k, t)]) p, Carried sep idx Small b f) := by
  unfold Unambiguous at hK
  push Not at hK
  obtain ⟨k, hk, q, hq, hkq⟩ := hK
  obtain ⟨t, t', ht, ht', hframes⟩ := exists_spine hS b hq
  refine ⟨k, q, t, t', hk, hkq, ht, ht', ?_⟩
  intro p
  have hbelow := hframes (p ++ sep :: k)
  have hpath : p ++ sep :: k ++ sep :: q = p ++ sep :: (k ++ sep :: q) := by
    rw [List.append_assoc, List.cons_append]
  rw [hpath] at hbelow
  constructor
  · show (p, Head.map) :: (frames sep idx t (p ++ sep :: k) ++ [])
        = (p, Head.map) :: (frames sep idx t' (p ++ sep :: k)
            ++ ([(p ++ sep :: (k ++ sep :: q), Head.leaf b)] ++ []))
    rw [List.append_nil, List.append_nil, hbelow.1]
  · intro hsmall f hf
    have hf : f ∈ (p, Head.map) :: (frames sep idx t (p ++ sep :: k) ++ []) := hf
    rw [List.append_nil, List.mem_cons] at hf
    apply hf.elim
    · intro hroot
      rw [hroot]
      exact ⟨hS.init hsmall, fun c hc => absurd hc (by simp), fun n hn => absurd hn (by simp)⟩
    · intro hin
      exact hbelow.2 hsmall f hin

end Listing

end PathTree
