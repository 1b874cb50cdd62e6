import MeshRoutes.Proofs.Yaml.Literal

/-!
# From one token to the next

Between two tokens the scanner skips a gap, gives up keys that come too late and closes collections.
Scanners that are the same after that go on in the same way, so what is read from a stream is
described by states in front of its lines.

* `Yaml.Scanner.outside`: the scanner outside of brackets and braces.
* `Yaml.Scanner.Reads`: whatever the limit, one state goes on like another one.
-/

namespace MeshRoutes.Yaml.Scanner

/-! ## Going on -/

/-- Whether a scanner goes on like another one, under limits that suffice for what is left. -/
def Reads (s t : Scanner) : Prop :=
  ∀ limit, s.rest.length < limit → ∃ limit', t.rest.length < limit' ∧ run limit s = run limit' t

section Reads

variable {s s' t u : Scanner}

theorem Reads.trans (first : Reads s t) (second : Reads t u) : Reads s u := by
  intro limit enough
  obtain ⟨limit', enough', eq⟩ := first limit enough
  obtain ⟨limit'', enough'', eq'⟩ := second limit' enough'
  exact ⟨limit'', enough'', eq.trans eq'⟩

theorem run_congr (same : s.toToken = t.toToken) {limit : Nat} (positive : limit ≠ 0) :
    run limit s = run limit t := by
  cases limit with
  | zero => exact absurd rfl positive
  | succ limit => rw [run, run, next?, next?, same]

/-- The gap in front of a token does not matter. -/
theorem Reads.of_toToken_eq (same : s.toToken = t.toToken)
    (shorter : t.rest.length ≤ s.rest.length) : Reads s t := by
  intro limit enough
  exact ⟨limit, by omega, run_congr same (by omega)⟩

/-- One token is read. -/
theorem Reads.of_step (step : s.next? = some s') (goes_on : s'.tokens.back? ≠ some .streamEnd)
    (same : s'.toToken = t.toToken) (shorter : t.rest.length < s.rest.length) : Reads s t := by
  intro limit enough
  cases limit with
  | zero => omega
  | succ limit =>
    refine ⟨limit, by omega, ?_⟩
    rw [run, step]
    dsimp only
    rw [if_neg (by simpa using goes_on)]
    exact run_congr same (by omega)

end Reads

/-! ## Outside of brackets and braces -/

/-- The scanner outside of brackets and braces, with the given tokens read. -/
def outside (rest : List Char) (pos : Position) (indent : Int) (outer : List Int)
    (keyAllowed : Bool) (key : Option PendingKey) (tokens : List Token) : Scanner where
  rest := rest
  pos := pos
  indent := indent
  outer := outer
  keyAllowed := keyAllowed
  keys := [key]
  tokens := tokens.toArray

section Outside

variable {cs ds : List Char} {p q : Position} {indent : Int} {outer : List Int}
  {allowed allowed' : Bool} {key : Option PendingKey} {tokens : List Token}

theorem toToken_of_skipGap {s : Scanner} {pos : Position} {keyAllowed : Bool}
    (gap : skipGap (s.flow != 0) false s.keyAllowed s.rest s.pos = (cs, pos, keyAllowed)) :
    s.toToken = (dropStale { s with rest := cs, pos, keyAllowed }).bind fun s =>
      some (s.closeIndent s.column) := by
  rw [toToken, gap]
  rfl

theorem toToken_outside : (outside cs p indent outer allowed key tokens).toToken =
    let (rest, pos, keyAllowed) := skipGap false false allowed cs p
    (dropStale (outside rest pos indent outer keyAllowed key tokens)).bind fun s =>
      some (s.closeIndent s.column) := rfl

/-- Whether the colon of a pending key would come too late at a position. -/
def isLate (key : PendingKey) (pos : Position) : Bool :=
  key.pos.line < pos.line || key.pos.index + 1024 < pos.index

theorem dropStale_outside : (outside cs p indent outer allowed key tokens).dropStale =
    if key.any (fun key => isLate key p && key.required) then none
    else some (outside cs p indent outer allowed (key.filter (!isLate · p)) tokens) := by
  unfold dropStale outside
  simp only [List.any_cons, List.any_nil, Bool.or_false, List.map_cons, List.map_nil]
  rfl

theorem toToken_congr
    (same : skipGap false false allowed cs p = skipGap false false allowed' ds q) :
    (outside cs p indent outer allowed key tokens).toToken =
      (outside ds q indent outer allowed' key tokens).toToken := by
  rw [toToken_outside, toToken_outside, same]

theorem toToken_spaces (count : Nat) :
    (outside (List.replicate count ' ' ++ cs) p indent outer allowed key tokens).toToken =
      (outside cs (p.advance count) indent outer allowed key tokens).toToken :=
  toToken_congr (skipGap_spaces count allowed cs p)

theorem toToken_lineFeed :
    (outside ('\n' :: cs) p indent outer allowed key tokens).toToken =
      (outside cs (p.newline 1) indent outer true key tokens).toToken :=
  toToken_congr (skipGap_lineFeed allowed cs p)

theorem line_le_line_skipGap (flow comment allowed : Bool) (cs : List Char) (p : Position) :
    p.line ≤ (skipGap flow comment allowed cs p).2.1.line := by
  fun_induction skipGap flow comment allowed cs p with
  | case1 => exact Nat.le_refl _
  | case2 comment allowed cs p ih => exact Nat.le_trans (Nat.le_succ _) ih
  | case3 comment allowed p c cs _ _ ih => exact Nat.le_trans (Nat.le_succ _) ih
  | case4 comment allowed p c cs _ _ _ ih => exact ih
  | case5 comment allowed p c cs _ _ _ _ ih => exact ih
  | case6 => exact Nat.le_refl _

/-- A key of an earlier line that need not be one is given up. -/
theorem toToken_stale {stale : PendingKey} (earlier : stale.pos.line < p.line)
    (optional : stale.required = false) :
    (outside cs p indent outer allowed (some stale) tokens).toToken =
      (outside cs p indent outer allowed none tokens).toToken := by
  have later := line_le_line_skipGap false false allowed cs p
  rw [toToken_outside, toToken_outside]
  generalize skipGap false false allowed cs p = gap at *
  obtain ⟨rest, pos, keyAllowed⟩ := gap
  have late : isLate stale pos = true := by
    have is_stale : stale.pos.line < pos.line := Nat.lt_of_lt_of_le earlier later
    simp [isLate, is_stale]
  dsimp only
  rw [dropStale_outside, dropStale_outside]
  simp [late, optional, Option.filter]

/-- A collection ends in front of something further to the left. -/
theorem toToken_close {column : Nat} (begins : BeginsAt column cs) (at_start : p.column = 0)
    (left : (column : Int) < indent) (around : Int) :
    (outside cs p indent (around :: outer) allowed none tokens).toToken =
      (outside cs p around outer allowed none (tokens ++ [.blockEnd])).toToken := by
  obtain ⟨rest, gap⟩ := begins.skipGap allowed p
  have column_eq : (p.advance column).column = column := by
    simp only [Position.advance, at_start]
    omega
  rw [toToken_outside, toToken_outside, gap]
  dsimp only
  rw [dropStale_outside, dropStale_outside]
  simp [outside, closeIndent, Scanner.column, column_eq, closeIndents, left]

/-- A scanner in front of a token of its collection stays as it is. -/
theorem toToken_eq_self {c : Char} (starts : isTokenStart c = true)
    (inside : indent ≤ (p.column : Int))
    (fresh : key.all (!isLate · p) = true) :
    (outside (c :: cs) p indent outer allowed key tokens).toToken =
      some (outside (c :: cs) p indent outer allowed key tokens) := by
  have kept : (outside (c :: cs) p indent outer allowed key tokens).dropStale =
      some (outside (c :: cs) p indent outer allowed key tokens) := by
    rw [dropStale_outside]
    cases key with
    | none => rfl
    | some pending =>
      have fresh : isLate pending p = false := by simpa using fresh
      simp [fresh, Option.filter]
  rw [toToken_outside, skipGap_token starts]
  dsimp only
  rw [kept]
  have not_left : ¬(p.column : Int) < indent := by omega
  cases outer with
  | nil => simp [outside, closeIndent, closeIndents]
  | cons around outer => simp [outside, closeIndent, closeIndents, Scanner.column, not_left]

end Outside

end MeshRoutes.Yaml.Scanner
