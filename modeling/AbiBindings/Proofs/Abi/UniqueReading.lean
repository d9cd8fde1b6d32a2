import AbiBindings.Proofs.Abi.Skeleton
import AbiBindings.Proofs.Struct.Fitting

/-! # Signatures are uniquely readable

Two signatures agree exactly when the names and the skeletons of the inputs do, provided that no
name or size contains a character that signatures use themselves.

The reading goes from left to right. A canonical type is cut off a longer text at the first comma
or closing parenthesis that is not inside it (`canonicalType_append_inj`); an induction over the
components carries this from the parts of a tuple to the whole. -/

namespace AbiBindings
set_option autoImplicit false

/-! ## Cutting at a mark -/

/-- A text ends or goes on with a mark. -/
def StopsAt (marks : List Char) (s : List Char) : Prop :=
  ∀ c ∈ s.head?, c ∈ marks

theorem stopsAt_cons {marks : List Char} {c : Char} {s : List Char} :
    StopsAt marks (c :: s) ↔ c ∈ marks := by
  simp [StopsAt]

/-- A word without marks is cut off at the first mark. -/
theorem append_inj_of_markFree {a b : List Char} {x y : List Char}
    (ha : ∀ c ∈ a, isMark c = false) (hb : ∀ c ∈ b, isMark c = false)
    (hx : ∀ c ∈ x.head?, isMark c = true) (hy : ∀ c ∈ y.head?, isMark c = true)
    (h : a ++ x = b ++ y) : a = b ∧ x = y := by
  induction a generalizing b with
  | nil =>
    cases b with
    | nil => exact ⟨rfl, h⟩
    | cons d b =>
      have hd := hx d (by rw [show x = d :: (b ++ y) from h]; rfl)
      rw [hb d List.mem_cons_self] at hd
      simp at hd
  | cons c a ih =>
    cases b with
    | nil =>
      have hc := hy c (by rw [show y = c :: (a ++ x) from h.symm]; rfl)
      rw [ha c List.mem_cons_self] at hc
      simp at hc
    | cons d b =>
      obtain ⟨rfl, htail⟩ : c = d ∧ a ++ x = b ++ y := by simpa using h
      obtain ⟨rfl, rfl⟩ := ih (fun e he => ha e (List.mem_cons_of_mem _ he))
        (fun e he => hb e (List.mem_cons_of_mem _ he)) htail
      exact ⟨rfl, rfl⟩

theorem StopsAt.isMark {x : List Char} (h : StopsAt [',', ')'] x) :
    ∀ c ∈ x.head?, isMark c = true := by
  intro c hc
  rcases List.mem_pair.mp (h c hc) with rfl | rfl <;> rfl

theorem isMark_head_levelChars {sizes : List String} {x : List Char} (h : StopsAt [',', ')'] x) :
    ∀ c ∈ (levelChars sizes ++ x).head?, isMark c = true := by
  cases sizes with
  | nil => exact h.isMark
  | cons size sizes =>
    intro c hc
    obtain rfl : '[' = c := by simpa [levelChars] using hc
    rfl

theorem levelChars_append_inj {sizes sizes' : List String} {x y : List Char}
    (hs : ∀ s ∈ sizes, MarkFree s) (hs' : ∀ s ∈ sizes', MarkFree s)
    (hx : StopsAt [',', ')'] x) (hy : StopsAt [',', ')'] y)
    (h : levelChars sizes ++ x = levelChars sizes' ++ y) : sizes = sizes' ∧ x = y := by
  induction sizes generalizing sizes' with
  | nil =>
    cases sizes' with
    | nil => exact ⟨rfl, h⟩
    | cons s' sizes' =>
      have h : x = '[' :: _ := h
      rw [h, stopsAt_cons] at hx
      simp at hx
  | cons s sizes ih =>
    cases sizes' with
    | nil =>
      have h : y = '[' :: _ := h.symm
      rw [h, stopsAt_cons] at hy
      simp at hy
    | cons s' sizes' =>
      have hsplit : s.toList ++ ']' :: (levelChars sizes ++ x) =
          s'.toList ++ ']' :: (levelChars sizes' ++ y) := by
        simpa [levelChars] using h
      obtain ⟨hsize, hrest⟩ := append_inj_of_markFree (hs s List.mem_cons_self)
        (hs' s' List.mem_cons_self) (by simp [isMark]) (by simp [isMark]) hsplit
      obtain ⟨rfl, rfl⟩ := ih (fun t ht => hs t (List.mem_cons_of_mem _ ht))
        (fun t ht => hs' t (List.mem_cons_of_mem _ ht)) (List.cons.inj hrest).2
      exact ⟨by rw [String.toList_injective hsize], rfl⟩

theorem stopsAt_moreChars (types : List String) (x : List Char) :
    StopsAt [',', ')'] (moreChars types ++ ')' :: x) := by
  cases types with
  | nil => exact stopsAt_cons.mpr (by simp)
  | cons t ts => exact stopsAt_cons.mpr (by simp)

/-! ## Types without marks in their names -/

/-- Elementary names are not empty, and neither they nor sizes contain a mark. -/
def TypeShape.Plain : TypeShape → Prop
  | elementary name => name ≠ "" ∧ MarkFree name
  | tuple => True
  | array element size => element.Plain ∧ MarkFree (size.getD "")

/-- The type and those of the components, at any depth, are plain. -/
inductive Parameter.Plain : Parameter → Prop where
  | intro (p : Parameter) (here : p.shape.Plain) (inside : ∀ q ∈ p.components, q.Plain) : p.Plain

theorem Parameter.Plain.here {p : Parameter} (h : p.Plain) : p.shape.Plain := by
  cases h
  assumption

theorem Parameter.Plain.inside {p : Parameter} (h : p.Plain) : ∀ q ∈ p.components, q.Plain := by
  cases h
  assumption

theorem TypeShape.Plain.innermost {s : TypeShape} (h : s.Plain) : s.innermost.Plain := by
  induction s with
  | elementary name => exact h
  | tuple => exact h
  | array element size ih => exact ih h.1

theorem TypeShape.Plain.sizes {s : TypeShape} (h : s.Plain) : ∀ z ∈ s.sizes, MarkFree z := by
  induction s with
  | elementary name => simp [TypeShape.sizes]
  | tuple => simp [TypeShape.sizes]
  | array element size ih =>
    intro z hz
    rcases List.mem_append.mp hz with hz | hz
    · exact ih h.1 z hz
    · rw [List.mem_singleton.mp hz]
      exact h.2

theorem markFree_ofList {s : List Char} (h : s.all (!isMark ·) = true) :
    MarkFree (String.ofList s) := by
  intro c hc
  rw [String.toList_ofList] at hc
  simpa using List.all_eq_true.mp h c hc

theorem plain_canonicalElementary {name : String} (h : (TypeShape.elementary name).Plain) :
    canonicalElementary name ≠ "" ∧ MarkFree (canonicalElementary name) := by
  rcases canonicalElementary_cases name with he | he
  · rw [he]
    exact h
  · simp only [List.mem_cons, List.not_mem_nil, or_false] at he
    rcases he with he | he | he | he | he <;> rw [he] <;>
      exact ⟨by decide, markFree_ofList rfl⟩

/-! ## Reading one type -/

namespace Parameter

theorem toList_canonicalType_of_elementary {p : Parameter} {m : String}
    (h : p.shape.innermost = .elementary m) :
    p.canonicalType.toList = (canonicalElementary m).toList ++ levelChars p.shape.sizes := by
  rw [canonicalType_eq, TypeShape.toList_canonicalText, h, TypeShape.canonicalText]

theorem toList_canonicalType_of_tuple {p : Parameter} (h : p.shape.innermost = .tuple) :
    p.canonicalType.toList =
      (tupleSignature p.components).toList ++ levelChars p.shape.sizes := by
  rw [canonicalType_eq, TypeShape.toList_canonicalText, h, TypeShape.canonicalText]

theorem innermost_cases (p : Parameter) :
    p.shape.innermost = .tuple ∨ ∃ m, p.shape.innermost = .elementary m := by
  rcases p.shape.innermost_eq with ⟨h, -⟩ | ⟨m, h, -⟩
  · exact .inl h
  · exact .inr ⟨m, h⟩

theorem exists_head_canonicalType {p : Parameter} (hp : p.Plain) :
    ∃ c rest, p.canonicalType.toList = c :: rest ∧
      (p.shape.innermost = .tuple ∧ c = '(' ∨
        (∃ m, p.shape.innermost = .elementary m) ∧ isMark c = false) := by
  rcases p.innermost_cases with h | ⟨m, h⟩
  · rw [toList_canonicalType_of_tuple h, tupleSignature]
    cases canonicalTypes p.components with
    | nil => exact ⟨'(', _, by rw [toList_typeList_nil]; rfl, .inl ⟨h, rfl⟩⟩
    | cons t ts => exact ⟨'(', _, by rw [toList_typeList_cons]; rfl, .inl ⟨h, rfl⟩⟩
  · obtain ⟨hne, hfree⟩ := plain_canonicalElementary (h ▸ hp.here.innermost)
    rw [toList_canonicalType_of_elementary h]
    cases hm : (canonicalElementary m).toList with
    | nil => exact absurd (String.toList_eq_nil_iff.mp hm) hne
    | cons c rest =>
      exact ⟨c, rest ++ levelChars p.shape.sizes, rfl,
        .inr ⟨⟨m, h⟩, hfree c (by simp [hm])⟩⟩

end Parameter

/-- The types of these parameters can be cut off a longer text. -/
def Readable (ps : List Parameter) : Prop :=
  ∀ p ∈ ps, ∀ (q : Parameter) (x y : List Char), q.Plain → StopsAt [',', ')'] x →
    StopsAt [',', ')'] y → p.canonicalType.toList ++ x = q.canonicalType.toList ++ y →
    p.skeleton = q.skeleton ∧ x = y

theorem moreChars_append_inj {ps qs : List Parameter} (hps : Readable ps)
    (hqs : ∀ q ∈ qs, q.Plain) {x y : List Char}
    (h : moreChars (ps.map Parameter.canonicalType) ++ ')' :: x =
      moreChars (qs.map Parameter.canonicalType) ++ ')' :: y) :
    ps.map Parameter.skeleton = qs.map Parameter.skeleton ∧ x = y := by
  induction ps generalizing qs with
  | nil =>
    cases qs with
    | nil => exact ⟨rfl, by simpa [moreChars] using h⟩
    | cons q qs => simp [moreChars] at h
  | cons p ps ih =>
    cases qs with
    | nil => simp [moreChars] at h
    | cons q qs =>
      have hsplit : p.canonicalType.toList ++
            (moreChars (ps.map Parameter.canonicalType) ++ ')' :: x) =
          q.canonicalType.toList ++
            (moreChars (qs.map Parameter.canonicalType) ++ ')' :: y) := by
        simpa [moreChars] using h
      obtain ⟨hpq, hrest⟩ := hps p List.mem_cons_self q _ _ (hqs q List.mem_cons_self)
        (stopsAt_moreChars _ _) (stopsAt_moreChars _ _) hsplit
      obtain ⟨htail, rfl⟩ := ih (fun r hr => hps r (List.mem_cons_of_mem _ hr))
        (fun r hr => hqs r (List.mem_cons_of_mem _ hr)) hrest
      exact ⟨by rw [List.map_cons, List.map_cons, hpq, htail], rfl⟩

theorem canonicalType_ne_close {p : Parameter} (hp : p.Plain) (x y : List Char) :
    p.canonicalType.toList ++ x ≠ ')' :: y := by
  obtain ⟨c, rest, hc, h⟩ := Parameter.exists_head_canonicalType hp
  intro he
  rw [hc, List.cons_append, List.cons.injEq] at he
  rcases h with ⟨-, rfl⟩ | ⟨-, hfree⟩
  · exact absurd he.1 (by decide)
  · rw [he.1] at hfree
    simp [isMark] at hfree

theorem tupleSignature_nil : (tupleSignature []).toList = ['(', ')'] :=
  toList_typeList_nil

theorem tupleSignature_cons (p : Parameter) (ps : List Parameter) :
    (tupleSignature (p :: ps)).toList = '(' :: (p.canonicalType.toList ++
      (moreChars (ps.map Parameter.canonicalType) ++ [')'])) := by
  rw [tupleSignature, canonicalTypes_eq_map, List.map_cons, toList_typeList_cons]

theorem tupleSignature_append_inj {ps qs : List Parameter} (hread : Readable ps)
    (hps : ∀ p ∈ ps, p.Plain) (hqs : ∀ q ∈ qs, q.Plain) {x y : List Char}
    (h : (tupleSignature ps).toList ++ x = (tupleSignature qs).toList ++ y) :
    ps.map Parameter.skeleton = qs.map Parameter.skeleton ∧ x = y := by
  cases ps with
  | nil =>
    cases qs with
    | nil => exact ⟨rfl, List.append_cancel_left h⟩
    | cons q qs =>
      rw [tupleSignature_nil, tupleSignature_cons] at h
      have hclose : ')' :: x = q.canonicalType.toList ++
          (moreChars (qs.map Parameter.canonicalType) ++ ')' :: y) := by simpa using h
      exact absurd hclose.symm (canonicalType_ne_close (hqs q List.mem_cons_self) _ _)
  | cons p ps =>
    cases qs with
    | nil =>
      rw [tupleSignature_nil, tupleSignature_cons] at h
      have hclose : p.canonicalType.toList ++
          (moreChars (ps.map Parameter.canonicalType) ++ ')' :: x) = ')' :: y := by simpa using h
      exact absurd hclose (canonicalType_ne_close (hps p List.mem_cons_self) _ _)
    | cons q qs =>
      rw [tupleSignature_cons, tupleSignature_cons] at h
      have hsplit : p.canonicalType.toList ++
            (moreChars (ps.map Parameter.canonicalType) ++ ')' :: x) =
          q.canonicalType.toList ++
            (moreChars (qs.map Parameter.canonicalType) ++ ')' :: y) := by
        simpa using h
      obtain ⟨hpq, hrest⟩ := hread p List.mem_cons_self q _ _ (hqs q List.mem_cons_self)
        (stopsAt_moreChars _ _) (stopsAt_moreChars _ _) hsplit
      obtain ⟨htail, hxy⟩ := moreChars_append_inj
        (fun r hr => hread r (List.mem_cons_of_mem _ hr))
        (fun r hr => hqs r (List.mem_cons_of_mem _ hr)) hrest
      exact ⟨by rw [List.map_cons, List.map_cons, hpq, htail], hxy⟩

theorem tuple_iff_of_append_eq {p q : Parameter} (hp : p.Plain) (hq : q.Plain) {x y : List Char}
    (h : p.canonicalType.toList ++ x = q.canonicalType.toList ++ y) :
    p.shape.innermost = .tuple ↔ q.shape.innermost = .tuple := by
  obtain ⟨c, rest, hc, hkind⟩ := Parameter.exists_head_canonicalType hp
  obtain ⟨c', rest', hc', hkind'⟩ := Parameter.exists_head_canonicalType hq
  obtain rfl : c = c' := by
    rw [hc, hc'] at h
    exact (List.cons.inj h).1
  rcases hkind with ⟨ht, rfl⟩ | ⟨⟨m, hm⟩, hfree⟩
  · rcases hkind' with ⟨ht', -⟩ | ⟨-, hfree'⟩
    · simp [ht, ht']
    · simp [isMark] at hfree'
  · rcases hkind' with ⟨-, rfl⟩ | ⟨⟨m', hm'⟩, -⟩
    · simp [isMark] at hfree
    · simp [hm, hm']

/-- A canonical type is cut off a text that goes on with a comma or a closing parenthesis, or that
ends there; what is cut off determines the skeleton. -/
theorem canonicalType_append_inj {p : Parameter} (hp : p.Plain) :
    ∀ (q : Parameter) (x y : List Char), q.Plain → StopsAt [',', ')'] x → StopsAt [',', ')'] y →
      p.canonicalType.toList ++ x = q.canonicalType.toList ++ y →
      p.skeleton = q.skeleton ∧ x = y := by
  induction p using Parameter.induction with
  | step p ih =>
    intro q x y hq hx hy h
    have hkind := tuple_iff_of_append_eq hp hq h
    rcases p.innermost_cases with hpt | ⟨m, hm⟩
    · -- two tuples: the components up to their closing parenthesis, then the array levels
      have hqt := hkind.mp hpt
      rw [Parameter.toList_canonicalType_of_tuple hpt, Parameter.toList_canonicalType_of_tuple hqt,
        List.append_assoc, List.append_assoc] at h
      obtain ⟨hcomponents, hrest⟩ := tupleSignature_append_inj
        (fun r hr => ih r hr (hp.inside r hr)) hp.inside hq.inside h
      obtain ⟨hsizes, hxy⟩ := levelChars_append_inj hp.here.sizes hq.here.sizes hx hy hrest
      rw [Parameter.skeleton_of_tuple hpt, Parameter.skeleton_of_tuple hqt, hcomponents, hsizes]
      exact ⟨rfl, hxy⟩
    · -- two elementary types: the names end at the first mark, then the array levels
      obtain ⟨n, hn⟩ : ∃ n, q.shape.innermost = .elementary n := by
        rcases q.innermost_cases with hqt | hn
        · rw [hkind.mpr hqt] at hm
          simp at hm
        · exact hn
      rw [Parameter.toList_canonicalType_of_elementary hm,
        Parameter.toList_canonicalType_of_elementary hn, List.append_assoc,
        List.append_assoc] at h
      obtain ⟨hname, hrest⟩ := append_inj_of_markFree
        (plain_canonicalElementary (hm ▸ hp.here.innermost)).2
        (plain_canonicalElementary (hn ▸ hq.here.innermost)).2
        (isMark_head_levelChars hx) (isMark_head_levelChars hy) h
      obtain ⟨hsizes, hxy⟩ := levelChars_append_inj hp.here.sizes hq.here.sizes hx hy hrest
      rw [Parameter.skeleton_of_elementary hm, Parameter.skeleton_of_elementary hn,
        String.toList_injective hname, hsizes]
      exact ⟨rfl, hxy⟩

theorem readable_of_plain {ps : List Parameter} (hps : ∀ p ∈ ps, p.Plain) : Readable ps :=
  fun p hp => canonicalType_append_inj (hps p hp)

theorem map_skeleton_of_tupleSignature_eq {ps qs : List Parameter} (hps : ∀ p ∈ ps, p.Plain)
    (hqs : ∀ q ∈ qs, q.Plain) (h : tupleSignature ps = tupleSignature qs) :
    ps.map Parameter.skeleton = qs.map Parameter.skeleton :=
  (tupleSignature_append_inj (readable_of_plain hps) hps hqs
    (congrArg (fun s : String => s.toList ++ []) h)).1

/-! ## The skeleton is all that counts -/

theorem map_eq_map_of_forall {α β γ : Type} {f : α → β} {g : α → γ} {xs ys : List α}
    (h : ∀ x ∈ xs, ∀ y, f x = f y → g x = g y) (hxy : xs.map f = ys.map f) :
    xs.map g = ys.map g := by
  induction xs generalizing ys with
  | nil => rw [List.map_eq_nil_iff.mp hxy.symm]
  | cons x xs ih =>
    cases ys with
    | nil => simp at hxy
    | cons y ys =>
      obtain ⟨hx, hxs⟩ := List.cons.inj hxy
      rw [List.map_cons, List.map_cons, h x List.mem_cons_self y hx,
        ih (fun z hz => h z (List.mem_cons_of_mem _ hz)) hxs]

theorem canonicalType_of_skeleton_eq {p : Parameter} :
    ∀ q : Parameter, p.skeleton = q.skeleton → p.canonicalType = q.canonicalType := by
  induction p using Parameter.induction with
  | step p ih =>
    intro q h
    apply String.toList_injective
    rcases p.innermost_cases with hp | ⟨m, hp⟩ <;> rcases q.innermost_cases with hq | ⟨n, hq⟩
    · rw [Parameter.skeleton_of_tuple hp, Parameter.skeleton_of_tuple hq,
        TypeSkeleton.tuple.injEq] at h
      rw [Parameter.toList_canonicalType_of_tuple hp, Parameter.toList_canonicalType_of_tuple hq,
        h.2, tupleSignature, tupleSignature, canonicalTypes_eq_map, canonicalTypes_eq_map,
        map_eq_map_of_forall ih h.1]
    · rw [Parameter.skeleton_of_tuple hp, Parameter.skeleton_of_elementary hq] at h
      simp at h
    · rw [Parameter.skeleton_of_elementary hp, Parameter.skeleton_of_tuple hq] at h
      simp at h
    · rw [Parameter.skeleton_of_elementary hp, Parameter.skeleton_of_elementary hq,
        TypeSkeleton.elementary.injEq] at h
      rw [Parameter.toList_canonicalType_of_elementary hp,
        Parameter.toList_canonicalType_of_elementary hq, h.1, h.2]

theorem tupleSignature_of_map_skeleton_eq {ps qs : List Parameter}
    (h : ps.map Parameter.skeleton = qs.map Parameter.skeleton) :
    tupleSignature ps = tupleSignature qs := by
  rw [tupleSignature, tupleSignature, canonicalTypes_eq_map, canonicalTypes_eq_map,
    map_eq_map_of_forall (fun p _ => canonicalType_of_skeleton_eq) h]

/-! ## Names, internal types and topics -/

mutual

/-- The parameter with nothing but its types: no names, no internal types, no topics. -/
def Parameter.bare : Parameter → Parameter
  | ⟨_, typeText, _, components, _⟩ => { typeText, components := bareAll components }

/-- Several parameters with nothing but their types. -/
def bareAll : List Parameter → List Parameter
  | [] => []
  | p :: rest => p.bare :: bareAll rest

end

theorem bareAll_eq_map (ps : List Parameter) : bareAll ps = ps.map Parameter.bare := by
  induction ps with
  | nil => rfl
  | cons p rest ih => rw [bareAll, ih, List.map_cons]

theorem canonicalType_bare (p : Parameter) : p.bare.canonicalType = p.canonicalType := by
  induction p using Parameter.induction with
  | step p ih =>
    cases p with
    | mk name typeText internalType components indexed =>
      have hmap : components.map (Parameter.canonicalType ∘ Parameter.bare) =
          components.map Parameter.canonicalType := List.map_congr_left ih
      rw [Parameter.bare, Parameter.canonicalType, Parameter.canonicalType, bareAll_eq_map,
        canonicalTypes_eq_map, canonicalTypes_eq_map, List.map_map, hmap]

theorem signature_map_bare (name : String) (inputs : List Parameter) :
    signature name (inputs.map Parameter.bare) = signature name inputs := by
  have hmap : inputs.map (Parameter.canonicalType ∘ Parameter.bare) =
      inputs.map Parameter.canonicalType := List.map_congr_left fun p _ => canonicalType_bare p
  rw [signature, signature, tupleSignature, tupleSignature, canonicalTypes_eq_map,
    canonicalTypes_eq_map, List.map_map, hmap]

theorem signature_of_map_bare_eq {inputs₁ inputs₂ : List Parameter} (name : String)
    (h : inputs₁.map Parameter.bare = inputs₂.map Parameter.bare) :
    signature name inputs₁ = signature name inputs₂ := by
  rw [← signature_map_bare, h, signature_map_bare]

/-! ## The statement -/

theorem exists_tail_tupleSignature (ps : List Parameter) :
    ∃ rest, (tupleSignature ps).toList = '(' :: rest := by
  cases ps with
  | nil => exact ⟨_, tupleSignature_nil⟩
  | cons p ps => exact ⟨_, tupleSignature_cons p ps⟩

theorem name_append_inj {a b x y : List Char} (ha : '(' ∉ a) (hb : '(' ∉ b)
    (h : a ++ '(' :: x = b ++ '(' :: y) : a = b ∧ x = y := by
  induction a generalizing b with
  | nil =>
    cases b with
    | nil => exact ⟨rfl, by simpa using h⟩
    | cons d b => exact absurd ((List.cons.inj h).1 ▸ List.mem_cons_self) hb
  | cons c a ih =>
    cases b with
    | nil => exact absurd ((List.cons.inj h).1 ▸ List.mem_cons_self) ha
    | cons d b =>
      obtain ⟨rfl, htail⟩ := List.cons.inj h
      obtain ⟨rfl, rfl⟩ := ih (fun hc => ha (List.mem_cons_of_mem _ hc))
        (fun hc => hb (List.mem_cons_of_mem _ hc)) htail
      exact ⟨rfl, rfl⟩

theorem signature_inj {name₁ name₂ : String} {inputs₁ inputs₂ : List Parameter}
    (hname₁ : '(' ∉ name₁.toList) (hname₂ : '(' ∉ name₂.toList)
    (h : signature name₁ inputs₁ = signature name₂ inputs₂) :
    name₁ = name₂ ∧ tupleSignature inputs₁ = tupleSignature inputs₂ := by
  obtain ⟨rest₁, h₁⟩ := exists_tail_tupleSignature inputs₁
  obtain ⟨rest₂, h₂⟩ := exists_tail_tupleSignature inputs₂
  have hchars := congrArg String.toList h
  rw [signature, signature, String.toList_append, String.toList_append, h₁, h₂] at hchars
  obtain ⟨hname, hrest⟩ := name_append_inj hname₁ hname₂ hchars
  exact ⟨String.toList_injective hname, String.toList_injective (by rw [h₁, h₂, hrest])⟩

/-- Names without a parenthesis and plain inputs are read back from a signature, the inputs up to
their skeletons. Names of parameters, internal types and topics never enter a selector or a topic;
and components that fit a definition have its canonical types only with its nested shape. -/
theorem signatures_are_uniquely_readable :
    (∀ (name₁ name₂ : String) (inputs₁ inputs₂ : List Parameter),
      '(' ∉ name₁.toList → '(' ∉ name₂.toList →
      (∀ p ∈ inputs₁, p.Plain) → (∀ p ∈ inputs₂, p.Plain) →
      (signature name₁ inputs₁ = signature name₂ inputs₂ ↔
        name₁ = name₂ ∧ inputs₁.map Parameter.skeleton = inputs₂.map Parameter.skeleton)) ∧
    (∀ (name : String) (inputs₁ inputs₂ : List Parameter),
      inputs₁.map Parameter.bare = inputs₂.map Parameter.bare →
      signature name inputs₁ = signature name inputs₂) ∧
    ∀ (d : StructDefinition) (components : List Parameter),
      (∀ q ∈ d.parameters, q.Plain) → (∀ q ∈ components, q.Plain) →
      d.fits components = true →
      d.parameters.map Parameter.skeleton = components.map Parameter.skeleton := by
  refine ⟨?_, fun name _ _ => signature_of_map_bare_eq name, ?_⟩
  · intro name₁ name₂ inputs₁ inputs₂ hname₁ hname₂ hplain₁ hplain₂
    constructor
    · intro h
      obtain ⟨hname, hinputs⟩ := signature_inj hname₁ hname₂ h
      exact ⟨hname, map_skeleton_of_tupleSignature_eq hplain₁ hplain₂ hinputs⟩
    · rintro ⟨rfl, hinputs⟩
      rw [signature, signature, tupleSignature_of_map_skeleton_eq hinputs]
  · intro d components hd hcomponents hfit
    exact map_skeleton_of_tupleSignature_eq hd hcomponents
      (StructDefinition.fits_iff.mp hfit).tupleSignature_eq

/-- Names, shorthands and topics do not show in a signature, neither of an array of structs nor
beside it; and a definition that components fit is read like them. -/
theorem signature_of_swap :
    let plain (name typeText : String) : Parameter := { name, typeText }
    let keys (fee : Parameter) (indexed : Bool) : Parameter :=
      { typeText := "tuple[2]", indexed, components := [plain "token" "address", fee] }
    let inputs := [keys (plain "fee" "uint") false, plain "memo" "bytes[]"]
    let others := [keys (plain "" "uint256") true, plain "data" "bytes[]"]
    let d := StructDefinition.ofComponents "Key" none [plain "token" "address", plain "fee" "uint"]
    (∀ p ∈ inputs, p.Plain) ∧ (∀ p ∈ others, p.Plain) ∧
      signature "swap" inputs = "swap((address,uint256)[2],bytes[])" ∧
      inputs.map Parameter.skeleton = others.map Parameter.skeleton ∧
      d.parameters.map Parameter.skeleton =
        [plain "" "address", plain "fee" "uint256"].map Parameter.skeleton := by
  intro plain keys inputs others d
  have hshapes : ["tuple[2]", "address", "uint", "uint256", "bytes[]"].map TypeShape.ofText =
      [.array .tuple (some "2"), .elementary "address", .elementary "uint", .elementary "uint256",
        .array (.elementary "bytes") none] := by decide +kernel
  simp only [List.map_cons, List.map_nil, List.cons.injEq, and_true] at hshapes
  obtain ⟨htuple, haddress, huint, hfull, hbytes⟩ := hshapes
  have helementary {name t : String} (hshape : TypeShape.ofText t = .elementary t) (hne : t ≠ "")
      (hmark : MarkFree t) : (plain name t).Plain := by
    refine .intro _ ?_ (List.forall_mem_nil _)
    rw [Parameter.shape, hshape]
    exact ⟨hne, hmark⟩
  have htoken (name : String) : (plain name "address").Plain :=
    helementary haddress (by decide) (markFree_ofList rfl)
  have hfee : (plain "fee" "uint").Plain := helementary huint (by decide) (markFree_ofList rfl)
  have hother (name : String) : (plain name "uint256").Plain :=
    helementary hfull (by decide) (markFree_ofList rfl)
  have hdata (name : String) : (plain name "bytes[]").Plain := by
    refine .intro _ ?_ (List.forall_mem_nil _)
    rw [Parameter.shape, hbytes]
    exact ⟨⟨by decide, markFree_ofList rfl⟩, markFree_ofList rfl⟩
  have hkeys (fee : Parameter) (indexed : Bool) (h : fee.Plain) : (keys fee indexed).Plain := by
    refine .intro _ ?_ (List.forall_mem_cons.mpr ⟨htoken "token", by simpa using h⟩)
    rw [Parameter.shape, htuple]
    exact ⟨trivial, markFree_ofList rfl⟩
  have hinputs : ∀ p ∈ inputs, p.Plain := by simpa [inputs] using ⟨hkeys _ false hfee, hdata "memo"⟩
  have hothers : ∀ p ∈ others, p.Plain := by
    simpa [others] using ⟨hkeys _ true (hother ""), hdata "data"⟩
  have htext : signature "swap" inputs = "swap((address,uint256)[2],bytes[])" ∧
      signature "swap" others = "swap((address,uint256)[2],bytes[])" ∧
      d.fits [plain "" "address", plain "fee" "uint256"] = true := by decide +kernel
  obtain ⟨hreads, -, hfits⟩ := signatures_are_uniquely_readable
  have hsame := hreads "swap" "swap" inputs others (by decide) (by decide) hinputs hothers
  refine ⟨hinputs, hothers, htext.1, ?_, ?_⟩
  · exact (hsame.mp (htext.1.trans htext.2.1.symm)).2
  · refine hfits d _ ?_ (by simpa using ⟨htoken "", hother "fee"⟩) htext.2.2
    rw [StructDefinition.parameters_ofComponents]
    simpa using ⟨htoken "token", hfee⟩

end AbiBindings
