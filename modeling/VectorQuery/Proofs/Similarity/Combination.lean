import Mathlib.Data.List.Nodup
import VectorQuery.Similarity.Combination

/-!
# What a combination keeps of its choices

The last choice with targets stands and the others leave no trace. Its targets are listed once each,
by first mention, and its weights are regrouped target by target: the weights of one target keep
their order, and none is lost, doubled or given to another target.
-/

namespace VectorQuery

namespace Combination

open Rpc Number

/-- The names of the targets of a choice, as they are given. -/
def Setting.names : Setting → List String
  | .unweighted _ names => names
  | .weighted _ pairs => pairs.map Prod.fst

/-- A choice that is offered: the sum, the average and the minimum take no weights, the other two
methods do. -/
def Setting.Offered : Setting → Prop
  | .unweighted method _ => method = .sum ∨ method = .average ∨ method = .minimum
  | .weighted method _ => method = .manualWeights ∨ method = .relativeScore

/-- Names without repetitions, in the order in which they are first mentioned among others. -/
structure InFirstOrder (names mentioned : List String) : Prop where
  nodup : names.Nodup
  mem_iff : ∀ name, name ∈ names ↔ name ∈ mentioned
  ordered : names.Pairwise fun a b => mentioned.idxOf a < mentioned.idxOf b

/-- The weights of targets one by one, as they are given. -/
def weightsOf (pairs : List (String × TargetWeight)) : List WeightsForTarget :=
  pairs.flatMap fun p => p.2.values.map fun weight => { target := p.1, weight }

/-- The weights for one target, as they are given. -/
def weightsFor (target : String) (pairs : List (String × TargetWeight)) : List WeightsForTarget :=
  (weightsOf pairs).filter fun w => w.target = target

/-- A message that lists weights target by target, those of one target in the order in which they
are given, and names the target of each. -/
structure Regroups (targets : List String) (pairs : List (String × TargetWeight)) (m : Targets) :
    Prop where
  listed : m.weightsForTargets = targets.flatMap fun target => weightsFor target pairs
  stable : ∀ target, (m.weightsForTargets.filter fun w => w.target = target) =
    weightsFor target pairs
  perm : m.weightsForTargets.Perm (weightsOf pairs)
  named : m.targetVectors = m.weightsForTargets.map WeightsForTarget.target

/-- What holds of a combination after any choices. -/
structure Sound (c : Combination) : Prop where
  isSet_iff : c.isSet = true ↔ c.targetVectors ≠ []
  weights_iff : c.weights ≠ [] ↔ c.method = some .manualWeights ∨ c.method = some .relativeScore
  length_weights : c.weights ≠ [] → c.weights.length = c.targetVectors.length

/-! ## Distinct names -/

theorem inFirstOrder_nil : InFirstOrder [] [] := ⟨.nil, fun _ => Iff.rfl, .nil⟩

theorem nodup_addName {names : List String} (h : names.Nodup) (name : String) :
    (addName names name).Nodup := by
  unfold addName
  by_cases hmem : name ∈ names
  · rwa [if_pos (List.contains_iff_mem.2 hmem)]
  · rw [if_neg fun hcontains => hmem (List.contains_iff_mem.1 hcontains)]
    refine List.nodup_append.2 ⟨h, List.nodup_singleton _, ?_⟩
    rintro a ha b hb rfl
    exact hmem (List.mem_singleton.1 hb ▸ ha)

/-- A name that is mentioned before is found where it was. -/
theorem InFirstOrder.addName {names mentioned : List String} (h : InFirstOrder names mentioned)
    (name : String) : InFirstOrder (addName names name) (mentioned ++ [name]) := by
  have hfound : ∀ a ∈ names, (mentioned ++ [name]).idxOf a = mentioned.idxOf a :=
    fun a ha => List.idxOf_append_of_mem ((h.mem_iff a).1 ha)
  have hordered : names.Pairwise fun a b =>
      (mentioned ++ [name]).idxOf a < (mentioned ++ [name]).idxOf b := by
    refine h.ordered.imp_of_mem fun ha hb hlt => ?_
    rwa [hfound _ ha, hfound _ hb]
  have hnodup := nodup_addName h.nodup name
  unfold Combination.addName at hnodup ⊢
  by_cases hmem : name ∈ names
  · rw [if_pos (List.contains_iff_mem.2 hmem)] at hnodup ⊢
    refine ⟨hnodup, fun a => ?_, hordered⟩
    rw [h.mem_iff, List.mem_append, List.mem_singleton]
    constructor
    · exact .inl
    · rintro (ha | rfl)
      · exact ha
      · exact (h.mem_iff _).1 hmem
  · rw [if_neg fun hcontains => hmem (List.contains_iff_mem.1 hcontains)] at hnodup ⊢
    have hnew : name ∉ mentioned := fun hname => hmem ((h.mem_iff name).2 hname)
    refine ⟨hnodup, fun a => ?_, ?_⟩
    · rw [List.mem_append, List.mem_append, h.mem_iff]
    · refine List.pairwise_append.2 ⟨hordered, List.pairwise_singleton _ _, ?_⟩
      intro a ha b hb
      rw [List.mem_singleton.1 hb, hfound a ha, List.idxOf_append_of_notMem hnew]
      exact Nat.lt_of_lt_of_le (List.idxOf_lt_length_of_mem ((h.mem_iff a).1 ha))
        (Nat.le_add_right ..)

theorem InFirstOrder.foldl_addName {names mentioned : List String}
    (h : InFirstOrder names mentioned) (more : List String) :
    InFirstOrder (more.foldl Combination.addName names) (mentioned ++ more) := by
  induction more generalizing names mentioned with
  | nil => rwa [List.append_nil]
  | cons name more ih =>
    rw [List.append_cons]
    exact ih (h.addName name)

theorem inFirstOrder_distinct (mentioned : List String) :
    InFirstOrder (distinct mentioned) mentioned :=
  inFirstOrder_nil.foldl_addName mentioned

theorem InFirstOrder.ne_nil {names mentioned : List String} (h : InFirstOrder names mentioned)
    (hne : mentioned ≠ []) : names ≠ [] := by
  obtain ⟨name, hname⟩ := List.exists_mem_of_ne_nil _ hne
  exact List.ne_nil_of_mem ((h.mem_iff name).2 hname)

theorem distinct_of_nodup {names : List String} (h : names.Nodup) : distinct names = names := by
  have hfold : ∀ before : List String, (before ++ names).Nodup →
      names.foldl addName before = before ++ names := by
    clear h
    induction names with
    | nil => exact fun before _ => (List.append_nil before).symm
    | cons name names ih =>
      intro before h
      have hnew : name ∉ before := fun hmem =>
        (List.nodup_append.1 h).2.2 name hmem name List.mem_cons_self rfl
      rw [List.append_cons] at h ⊢
      rw [List.foldl_cons, addName, if_neg fun hc => hnew (List.contains_iff_mem.1 hc), ih _ h]
  exact hfold [] h

/-! ## Weighted targets -/

theorem map_fst_addWeighted (pairs : List (String × TargetWeight)) (pair : String × TargetWeight) :
    (addWeighted pairs pair).map Prod.fst = addName (pairs.map Prod.fst) pair.1 := by
  have hiff : (pairs.any fun p => decide (p.1 = pair.1)) =
      (pairs.map Prod.fst).contains pair.1 := by
    rw [Bool.eq_iff_iff, List.any_eq_true, List.contains_iff_mem, List.mem_map]
    simp
  unfold addWeighted addName
  rw [hiff]
  split
  · rw [List.map_map]
    refine List.map_congr_left fun p _ => ?_
    by_cases hp : p.1 = pair.1 <;> simp [hp]
  · rw [List.map_append]
    rfl

theorem map_fst_regroup (pairs : List (String × TargetWeight)) :
    (regroup pairs).map Prod.fst = distinct (pairs.map Prod.fst) := by
  have hfold : ∀ before, (pairs.foldl addWeighted before).map Prod.fst =
      (pairs.map Prod.fst).foldl addName (before.map Prod.fst) := by
    induction pairs with
    | nil => exact fun _ => rfl
    | cons pair pairs ih =>
      intro before
      rw [List.foldl_cons, ih, map_fst_addWeighted]
      rfl
  exact hfold []

theorem nodup_regroup (pairs : List (String × TargetWeight)) :
    ((regroup pairs).map Prod.fst).Nodup := by
  rw [map_fst_regroup]
  exact (inFirstOrder_distinct _).nodup

theorem weightsOf_cons (pair : String × TargetWeight) (pairs : List (String × TargetWeight)) :
    weightsOf (pair :: pairs) = weightsOf [pair] ++ weightsOf pairs := by
  simp [weightsOf]

theorem weightsFor_cons (target : String) (pair : String × TargetWeight)
    (pairs : List (String × TargetWeight)) :
    weightsFor target (pair :: pairs) = weightsFor target [pair] ++ weightsFor target pairs := by
  rw [weightsFor, weightsOf_cons, List.filter_append]
  rfl

theorem weightsFor_append (target : String) (ps qs : List (String × TargetWeight)) :
    weightsFor target (ps ++ qs) = weightsFor target ps ++ weightsFor target qs := by
  simp [weightsFor, weightsOf]

theorem target_of_mem_weightsOf {pairs : List (String × TargetWeight)} {w : WeightsForTarget}
    (h : w ∈ weightsOf pairs) : w.target ∈ pairs.map Prod.fst := by
  obtain ⟨pair, hpair, hw⟩ := List.mem_flatMap.1 h
  obtain ⟨weight, -, rfl⟩ := List.mem_map.1 hw
  exact List.mem_map_of_mem hpair

theorem weightsFor_of_notMem {target : String} {pairs : List (String × TargetWeight)}
    (h : target ∉ pairs.map Prod.fst) : weightsFor target pairs = [] := by
  refine List.filter_eq_nil_iff.2 fun w hw => ?_
  rintro htarget
  exact h (of_decide_eq_true htarget ▸ target_of_mem_weightsOf hw)

theorem weightsFor_self (pair : String × TargetWeight) :
    weightsFor pair.1 [pair] = weightsOf [pair] := by
  refine List.filter_eq_self.2 fun w hw => ?_
  have hmem := target_of_mem_weightsOf hw
  rw [List.map_singleton, List.mem_singleton] at hmem
  exact decide_eq_true hmem

/-- A merged weight holds the weights of both. -/
theorem weightsFor_merge {p q : String × TargetWeight} (h : p.1 = q.1) (target : String) :
    weightsFor target [(p.1, p.2.merge q.2)] = weightsFor target [p] ++ weightsFor target [q] := by
  obtain ⟨name, v⟩ := p
  obtain ⟨name', w⟩ := q
  obtain rfl : name = name' := h
  simp [weightsFor, weightsOf, TargetWeight.merge, TargetWeight.values]

/-- Weights of a target that no other pair names may stand behind the others. -/
theorem weightsFor_comm {pair : String × TargetWeight} {pairs : List (String × TargetWeight)}
    (h : pair.1 ∉ pairs.map Prod.fst) (target : String) :
    weightsFor target [pair] ++ weightsFor target pairs =
      weightsFor target pairs ++ weightsFor target [pair] := by
  by_cases htarget : pair.1 = target
  · have hnone : weightsFor target pairs = [] := weightsFor_of_notMem (htarget ▸ h)
    rw [hnone, List.nil_append, List.append_nil]
  · have hnone : weightsFor target [pair] = [] :=
      weightsFor_of_notMem (by simpa using Ne.symm htarget)
    rw [hnone, List.nil_append, List.append_nil]

/-- The weights of a pair stand behind those of its target that were there before, and the others
stay where they are. -/
theorem weightsFor_addWeighted {pairs : List (String × TargetWeight)}
    (hnodup : (pairs.map Prod.fst).Nodup) (pair : String × TargetWeight) (target : String) :
    weightsFor target (addWeighted pairs pair) =
      weightsFor target pairs ++ weightsFor target [pair] := by
  unfold addWeighted
  split
  · rename_i hany
    rw [List.any_eq_true] at hany
    induction pairs with
    | nil => simp at hany
    | cons p pairs ih =>
      obtain ⟨hp, hnodup⟩ := List.nodup_cons.1 hnodup
      rw [List.map_cons, weightsFor_cons, weightsFor_cons target p]
      by_cases heq : p.1 = pair.1
      · have hsame : pairs.map (fun q => if q.1 = pair.1 then (q.1, q.2.merge pair.2) else q) =
            pairs := by
          refine (List.map_congr_left fun q hq => if_neg ?_).trans (List.map_id' pairs)
          intro hq'
          exact hp (heq ▸ hq' ▸ List.mem_map_of_mem hq)
        rw [if_pos heq, hsame, weightsFor_merge heq, List.append_assoc, List.append_assoc,
          weightsFor_comm (heq ▸ hp)]
      · rw [if_neg heq, ih hnodup, List.append_assoc]
        obtain ⟨q, hq, hq'⟩ := hany
        rcases List.mem_cons.1 hq with rfl | hq
        · exact absurd (of_decide_eq_true hq') heq
        · exact ⟨q, hq, hq'⟩
  · exact weightsFor_append ..

theorem weightsFor_regroup (pairs : List (String × TargetWeight)) (target : String) :
    weightsFor target (regroup pairs) = weightsFor target pairs := by
  have hfold : ∀ before : List (String × TargetWeight), (before.map Prod.fst).Nodup →
      weightsFor target (pairs.foldl addWeighted before) =
        weightsFor target before ++ weightsFor target pairs := by
    induction pairs with
    | nil => exact fun before _ => (List.append_nil _).symm
    | cons pair pairs ih =>
      intro before hnodup
      have hstep : ((addWeighted before pair).map Prod.fst).Nodup := by
        rw [map_fst_addWeighted]
        exact nodup_addName hnodup _
      rw [List.foldl_cons, ih _ hstep, weightsFor_addWeighted hnodup, List.append_assoc,
        ← weightsFor_cons]
  exact hfold [] .nil

/-- Weighted targets with distinct names hold their weights target by target. -/
theorem weightsOf_eq_flatMap {pairs : List (String × TargetWeight)}
    (hnodup : (pairs.map Prod.fst).Nodup) :
    weightsOf pairs = (pairs.map Prod.fst).flatMap fun target => weightsFor target pairs := by
  induction pairs with
  | nil => rfl
  | cons pair pairs ih =>
    obtain ⟨hpair, hnodup⟩ := List.nodup_cons.1 hnodup
    have hrest : (pairs.map Prod.fst).flatMap (fun target => weightsFor target (pair :: pairs)) =
        (pairs.map Prod.fst).flatMap fun target => weightsFor target pairs := by
      rw [List.flatMap_def, List.flatMap_def]
      refine congrArg List.flatten (List.map_congr_left fun target htarget => ?_)
      have hnone : weightsFor target [pair] = [] := by
        refine weightsFor_of_notMem ?_
        rw [List.map_singleton, List.mem_singleton]
        rintro rfl
        exact hpair htarget
      rw [weightsFor_cons, hnone, List.nil_append]
    rw [List.map_cons, List.flatMap_cons, hrest, ← ih hnodup, weightsFor_cons, weightsFor_self,
      weightsFor_of_notMem hpair, List.append_nil, ← weightsOf_cons]

/-- The weights for each target make up all weights. -/
theorem perm_weightsOf {ws : List WeightsForTarget} {pairs : List (String × TargetWeight)}
    (h : ∀ target, (ws.filter fun w => w.target = target) = weightsFor target pairs) :
    ws.Perm (weightsOf pairs) := by
  refine List.perm_iff_count.2 fun w => ?_
  have hcount : ∀ vs : List WeightsForTarget,
      (vs.filter fun v => v.target = w.target).count w = vs.count w :=
    fun vs => List.count_filter (by simp)
  rw [← hcount ws, h, weightsFor, hcount]

/-! ## One choice after another -/

theorem set_unweighted {names : List String} (h : names ≠ []) (c : Combination)
    (method : CombinationMethod) :
    c.set (.unweighted method names) = ⟨some method, distinct names, []⟩ :=
  if_neg fun hempty => h (List.isEmpty_iff.1 hempty)

theorem set_weighted {pairs : List (String × TargetWeight)} (h : pairs ≠ []) (c : Combination)
    (method : CombinationMethod) : c.set (.weighted method pairs) =
      ⟨some method, (regroup pairs).map Prod.fst, (regroup pairs).map Prod.snd⟩ :=
  if_neg fun hempty => h (List.isEmpty_iff.1 hempty)

theorem set_of_names_nil {s : Setting} (h : s.names = []) (c : Combination) : c.set s = c := by
  cases s with
  | unweighted method names => exact if_pos (List.isEmpty_iff.2 h)
  | weighted method pairs => exact if_pos (List.isEmpty_iff.2 (List.map_eq_nil_iff.1 h))

theorem ne_nil_of_unweighted {method : CombinationMethod} {names : List String}
    (h : (Setting.unweighted method names).names ≠ []) : names ≠ [] := h

theorem ne_nil_of_weighted {method : CombinationMethod} {pairs : List (String × TargetWeight)}
    (h : (Setting.weighted method pairs).names ≠ []) : pairs ≠ [] :=
  fun hnil => h (List.map_eq_nil_iff.2 hnil)

theorem set_of_names_ne_nil {s : Setting} (h : s.names ≠ []) (c d : Combination) :
    c.set s = d.set s := by
  cases s with
  | unweighted method names =>
    rw [set_unweighted (ne_nil_of_unweighted h), set_unweighted (ne_nil_of_unweighted h)]
  | weighted method pairs =>
    rw [set_weighted (ne_nil_of_weighted h), set_weighted (ne_nil_of_weighted h)]

theorem foldl_set_of_names_nil {settings : List Setting} (h : ∀ s ∈ settings, s.names = [])
    (c : Combination) : settings.foldl set c = c := by
  induction settings with
  | nil => rfl
  | cons s settings ih =>
    obtain ⟨hs, hsettings⟩ := List.forall_mem_cons.1 h
    rw [List.foldl_cons, set_of_names_nil hs, ih hsettings]

/-- The last choice with targets stands as if it were the only one. -/
theorem ofSettings_of_latest {before after : List Setting} {s : Setting} (hs : s.names ≠ [])
    (hafter : ∀ t ∈ after, t.names = []) : ofSettings (before ++ s :: after) = ofSettings [s] := by
  rw [ofSettings, List.foldl_append, List.foldl_cons, foldl_set_of_names_nil hafter]
  exact set_of_names_ne_nil hs _ _

theorem inFirstOrder_set {s : Setting} (hs : s.names ≠ []) (c : Combination) :
    InFirstOrder (c.set s).targetVectors s.names := by
  cases s with
  | unweighted method names =>
    rw [set_unweighted (ne_nil_of_unweighted hs)]
    exact inFirstOrder_distinct names
  | weighted method pairs =>
    rw [set_weighted (ne_nil_of_weighted hs), map_fst_regroup]
    exact inFirstOrder_distinct _

theorem sound_set {c : Combination} (hc : Sound c) {s : Setting} (hs : s.Offered) :
    Sound (c.set s) := by
  by_cases hnames : s.names = []
  · rwa [set_of_names_nil hnames]
  have htargets := (inFirstOrder_set hnames c).ne_nil hnames
  cases s with
  | unweighted method names =>
    rw [set_unweighted (ne_nil_of_unweighted hnames)] at htargets ⊢
    refine ⟨iff_of_true rfl htargets, ?_, fun hweights => absurd rfl hweights⟩
    rcases hs with rfl | rfl | rfl <;> simp
  | weighted method pairs =>
    rw [set_weighted (ne_nil_of_weighted hnames)] at htargets ⊢
    have hweights : (regroup pairs).map Prod.snd ≠ [] := by
      intro hnil
      exact htargets (List.map_eq_nil_iff.2 (List.map_eq_nil_iff.1 hnil))
    refine ⟨iff_of_true rfl htargets, iff_of_true hweights ?_, fun _ => by simp⟩
    rcases hs with rfl | rfl
    · exact .inl rfl
    · exact .inr rfl

theorem sound_ofSettings {settings : List Setting} (h : ∀ s ∈ settings, s.Offered) :
    Sound (ofSettings settings) := by
  have hfold : ∀ c, Sound c → Sound (settings.foldl set c) := by
    induction settings with
    | nil => exact fun c hc => hc
    | cons s settings ih =>
      obtain ⟨hs, hsettings⟩ := List.forall_mem_cons.1 h
      exact fun c hc => ih hsettings _ (sound_set hc hs)
  exact hfold {} ⟨by simp [isSet], by simp, by simp⟩

/-! ## Weights in messages -/

theorem message_of_weights {c : Combination} (h : c.weights ≠ []) :
    c.message.weightsForTargets = weightsOf (c.targetVectors.zip c.weights) ∧
      c.message.targetVectors = c.message.weightsForTargets.map WeightsForTarget.target := by
  rw [message, if_neg fun hempty => h (List.isEmpty_iff.1 hempty)]
  refine ⟨?_, ?_⟩
  · simp only [expanded, List.map_flatMap, List.map_map]
    rfl
  · simp only [List.map_map]
    rfl

theorem regroups_set {method : CombinationMethod} {pairs : List (String × TargetWeight)}
    (hpairs : pairs ≠ []) (c : Combination) :
    Regroups (c.set (.weighted method pairs)).targetVectors pairs
      (c.set (.weighted method pairs)).message := by
  rw [set_weighted hpairs]
  have hne : (regroup pairs).map Prod.snd ≠ [] := by
    have hnames : pairs.map Prod.fst ≠ [] := fun hnil => hpairs (List.map_eq_nil_iff.1 hnil)
    have htargets := (inFirstOrder_distinct (pairs.map Prod.fst)).ne_nil hnames
    rw [← map_fst_regroup] at htargets
    exact fun hnil => htargets (List.map_eq_nil_iff.2 (List.map_eq_nil_iff.1 hnil))
  have hzip : ((regroup pairs).map Prod.fst).zip ((regroup pairs).map Prod.snd) =
      regroup pairs := by
    rw [← List.unzip_fst, ← List.unzip_snd, List.zip_unzip]
  obtain ⟨hweights, hnamed⟩ := message_of_weights
    (c := ⟨some method, (regroup pairs).map Prod.fst, (regroup pairs).map Prod.snd⟩) hne
  have hstable : ∀ target, ((weightsOf (regroup pairs)).filter fun w => w.target = target) =
      weightsFor target pairs := weightsFor_regroup pairs
  refine ⟨?_, ?_, ?_, hnamed⟩
  · rw [hweights, hzip, weightsOf_eq_flatMap (nodup_regroup pairs)]
    simp only [weightsFor_regroup]
  · rwa [hweights, hzip]
  · rw [hweights, hzip]
    exact perm_weightsOf hstable

/-- What stands after choices. -/
structure Follows (settings : List Setting) (c : Combination) : Prop extends Sound c where
  /-- Choices without targets leave everything as it was at first. -/
  fresh : (∀ s ∈ settings, s.names = []) → c = {}
  /-- The last choice with targets stands as if it were the only one, with its targets by first
  mention. -/
  latest : ∀ before s after, settings = before ++ s :: after → s.names ≠ [] →
    (∀ t ∈ after, t.names = []) → c = ofSettings [s] ∧ InFirstOrder c.targetVectors s.names
  /-- Its weights are regrouped by target. -/
  regroups : ∀ before method pairs after, settings = before ++ .weighted method pairs :: after →
    pairs ≠ [] → (∀ t ∈ after, t.names = []) → Regroups c.targetVectors pairs c.message

/-- After any choices the last one with targets stands alone, and a message of it regroups its
weights by target. -/
theorem follows_ofSettings {settings : List Setting} (h : ∀ s ∈ settings, s.Offered) :
    Follows settings (ofSettings settings) := by
  refine { toSound := sound_ofSettings h, fresh := ?_, latest := ?_, regroups := ?_ }
  · intro hnames
    exact foldl_set_of_names_nil hnames {}
  · rintro before s after rfl hs hafter
    rw [ofSettings_of_latest hs hafter]
    exact ⟨rfl, inFirstOrder_set hs {}⟩
  · rintro before method pairs after rfl hpairs hafter
    have hs : (Setting.weighted method pairs).names ≠ [] := fun hnil =>
      hpairs (List.map_eq_nil_iff.1 hnil)
    rw [ofSettings_of_latest hs hafter]
    exact regroups_set hpairs {}

/-- Choices of which the second stands: the first is replaced and the third has no targets. -/
def interleaved (v w : Single) : List Setting :=
  [.unweighted .average ["x", "y", "x"],
    .weighted .manualWeights
      [("b", .single v), ("a", .multi [w]), ("b", .multi [w, v]), ("a", .multi [])],
    .weighted .relativeScore []]

theorem follows_ofSettings_interleaved :
    (∀ s ∈ interleaved .zero (.ofBits 1), s.Offered) ∧
      Follows (interleaved .zero (.ofBits 1)) (ofSettings (interleaved .zero (.ofBits 1))) ∧
      (ofSettings (interleaved .zero (.ofBits 1))).message.targetVectors =
        ["b", "b", "b", "a"] := by
  have hoffered : ∀ s ∈ interleaved .zero (.ofBits 1), s.Offered := by
    simp [interleaved, Setting.Offered]
  exact ⟨hoffered, follows_ofSettings hoffered, rfl⟩

end Combination

end VectorQuery
