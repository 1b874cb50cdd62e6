import Mathlib.Order.Defs.Unbundled
import MeshRoutes.Route.Order

/-!
# The orders of routes are total

Both orders of routes compare a text first and, where that is the same, the optional name. Such an
order is total and transitive when the order of the text is a strict total one, so sorting by it
puts each route at or before all that follow. Routes that it does not tell apart have the same text
and the same name.
-/

namespace MeshRoutes

theorem optionalNameLe_total (a b : Option String) :
    (optionalNameLe a b || optionalNameLe b a) = true := by
  cases a with
  | none => rfl
  | some a =>
    cases b with
    | none => rfl
    | some b => simpa [optionalNameLe] using String.le_total a b

theorem optionalNameLe_trans {a b c : Option String} (ab : optionalNameLe a b = true)
    (bc : optionalNameLe b c = true) : optionalNameLe a c = true := by
  cases a with
  | none => rfl
  | some a =>
    cases b with
    | none => simp [optionalNameLe] at ab
    | some b =>
      cases c with
      | none => simp [optionalNameLe] at bc
      | some c =>
        simp only [optionalNameLe, decide_eq_true_eq] at ab bc ⊢
        exact String.le_trans ab bc

theorem optionalNameLe_antisymm {a b : Option String} (ab : optionalNameLe a b = true)
    (ba : optionalNameLe b a = true) : a = b := by
  cases a with
  | none =>
    cases b with
    | none => rfl
    | some b => cases ba
  | some a =>
    cases b with
    | none => cases ab
    | some b =>
      have below : a ≤ b := of_decide_eq_true ab
      have above : b ≤ a := of_decide_eq_true ba
      rw [String.le_antisymm below above]

namespace Route

/-- Whether a route stands at or before another by a text that is ordered by `lt`, then by name. -/
def keyedLe (lt : String → String → Prop) [DecidableRel lt] (key : Route → String)
    (a b : Route) : Bool :=
  if key a = key b then optionalNameLe a.metadata.name b.metadata.name
  else decide (lt (key a) (key b))

theorem canonicalLe_eq_keyedLe : canonicalLe = keyedLe (· < ·) namespaceName := rfl

theorem urlLe_eq_keyedLe : urlLe = keyedLe (fun a b => b < a) url := rfl

section KeyedLe

variable {lt : String → String → Prop} [DecidableRel lt] {key : Route → String}

theorem keyedLe_total (connected : ∀ a b, a ≠ b → lt a b ∨ lt b a) (a b : Route) :
    (keyedLe lt key a b || keyedLe lt key b a) = true := by
  unfold keyedLe
  by_cases same : key a = key b
  · simpa [same] using optionalNameLe_total a.metadata.name b.metadata.name
  · simpa [same, Ne.symm same] using connected _ _ same

theorem keyedLe_trans (trans : ∀ a b c, lt a b → lt b c → lt a c) (irrefl : ∀ a, ¬lt a a)
    {a b c : Route} (ab : keyedLe lt key a b = true) (bc : keyedLe lt key b c = true) :
    keyedLe lt key a c = true := by
  unfold keyedLe at *
  split at ab
  · next same =>
    rw [same]
    split at bc
    · next same' => rw [if_pos same']; exact optionalNameLe_trans ab bc
    · next different => rw [if_neg different]; exact bc
  · next different =>
    split at bc
    · next same' => rw [← same', if_neg different]; exact ab
    · next different' =>
      have below := trans _ _ _ (of_decide_eq_true ab) (of_decide_eq_true bc)
      have different'' : key a ≠ key c := fun same => irrefl _ (same ▸ below)
      rw [if_neg different'']
      exact decide_eq_true below

theorem keyedLe_antisymm (asymm : ∀ a b, lt a b → ¬lt b a) {a b : Route}
    (ab : keyedLe lt key a b = true) (ba : keyedLe lt key b a = true) :
    key a = key b ∧ a.metadata.name = b.metadata.name := by
  unfold keyedLe at *
  by_cases same : key a = key b
  · rw [if_pos same] at ab
    rw [if_pos same.symm] at ba
    exact ⟨same, optionalNameLe_antisymm ab ba⟩
  · rw [if_neg same] at ab
    rw [if_neg (Ne.symm same)] at ba
    exact absurd (of_decide_eq_true ba) (asymm _ _ (of_decide_eq_true ab))

end KeyedLe

theorem text_asymm (a b : String) (below : a < b) : ¬b < a := fun above =>
  String.lt_irrefl _ (String.lt_trans below above)

theorem text_connected (a b : String) (different : a ≠ b) : a < b ∨ b < a := by
  by_cases below : a < b
  · exact .inl below
  · by_cases above : b < a
    · exact .inr above
    · exact (different (String.le_antisymm (String.not_lt.1 above) (String.not_lt.1 below))).elim

theorem canonicalLe_total (a b : Route) : (canonicalLe a b || canonicalLe b a) = true := by
  rw [canonicalLe_eq_keyedLe]
  exact keyedLe_total text_connected a b

theorem canonicalLe_trans {a b c : Route} (ab : canonicalLe a b = true)
    (bc : canonicalLe b c = true) : canonicalLe a c = true := by
  rw [canonicalLe_eq_keyedLe] at *
  exact @keyedLe_trans (· < ·) _ _ (fun _ _ _ => String.lt_trans) String.lt_irrefl _ _ _ ab bc

/-- Routes that stand at or before each other have the same namespace and name. -/
theorem canonicalLe_antisymm {a b : Route} (ab : canonicalLe a b = true)
    (ba : canonicalLe b a = true) :
    a.namespaceName = b.namespaceName ∧ a.metadata.name = b.metadata.name := by
  rw [canonicalLe_eq_keyedLe] at *
  exact keyedLe_antisymm text_asymm ab ba

theorem pairwise_mergeSort_canonicalLe (routes : List Route) :
    (routes.mergeSort canonicalLe).Pairwise fun a b => canonicalLe a b = true :=
  @List.pairwise_mergeSort _ canonicalLe (fun _ _ _ => canonicalLe_trans) canonicalLe_total routes

theorem urlLe_total (a b : Route) : (urlLe a b || urlLe b a) = true := by
  rw [urlLe_eq_keyedLe]
  exact keyedLe_total (fun a b different => (text_connected a b different).symm) a b

theorem urlLe_trans {a b c : Route} (ab : urlLe a b = true) (bc : urlLe b c = true) :
    urlLe a c = true := by
  rw [urlLe_eq_keyedLe] at *
  exact @keyedLe_trans (fun a b => b < a) _ _ (fun _ _ _ above below => String.lt_trans below above)
    String.lt_irrefl _ _ _ ab bc

/-- Routes that stand at or before each other by URL have the same URL and name. -/
theorem urlLe_antisymm {a b : Route} (ab : urlLe a b = true) (ba : urlLe b a = true) :
    a.url = b.url ∧ a.metadata.name = b.metadata.name := by
  rw [urlLe_eq_keyedLe] at *
  exact keyedLe_antisymm (fun a b => text_asymm b a) ab ba

/-- Sorted by URL, each route stands at or before all that follow. -/
theorem pairwise_mergeSort_urlLe (routes : List Route) :
    (routes.mergeSort urlLe).Pairwise fun a b => urlLe a b = true :=
  @List.pairwise_mergeSort _ urlLe (fun _ _ _ => urlLe_trans) urlLe_total routes

end Route

end MeshRoutes
