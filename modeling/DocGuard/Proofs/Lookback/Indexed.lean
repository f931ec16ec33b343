import DocGuard.Proofs.Lookback.Openers
import Mathlib.Logic.Relation

set_option autoImplicit false

-- The search on a stream that is read by index. It keeps signed numbers for its places, -1 for what
-- lies before the stream, and learns of the stream its length and the kinds that it asks for one by
-- one; so it can be said which places it asks for and how its numbers move.

namespace DocGuard.Lookback.Indexed

inductive Stage
  -- Asked for the significant place before `start`.
  | called (start : Int)
  -- Outside all blocks.
  | walking (cursor : Int)
  -- Asked for the opener of the closer at `stop`.
  | closing (stop : Int)
  | seeking (place depth : Int)
  -- Answers, about an opener and about the significant place.
  | opened (found : Int)
  | ended (found : Int)
  | judged (documented : Bool)
  -- A place was asked for that is not there.
  | lost
  deriving DecidableEq

inductive Move
  | rest
  | go (later : Stage)
  | read (place : Int) (next : Kind → Stage)

def walkOn (skip : SkipSet) (cursor : Int) (k : Kind) : Stage :=
  if k = .attrClose then .closing cursor
  else if skip.has k then .walking (cursor - 1)
  else .ended cursor

def seekOn (place depth : Int) : Kind → Stage
  | .attrClose => .seeking (place - 1) (depth + 1)
  | .attrOpen => if depth - 1 = 0 then .opened place else .seeking (place - 1) (depth - 1)
  | _ => .seeking (place - 1) depth

-- Of the stream only the length is known here.
def move (size : Nat) (skip : SkipSet) : Stage → Move
  | .called start =>
    if start ≤ 0 ∨ (size : Int) < start then .go (.ended (-1)) else .go (.walking (start - 1))
  | .walking cursor =>
    if 0 ≤ cursor then .read cursor (walkOn skip cursor) else .go (.ended (-1))
  | .closing stop =>
    if stop < 0 ∨ (size : Int) ≤ stop then .go (.opened (-1)) else .go (.seeking stop 0)
  | .seeking place depth =>
    if 0 ≤ place then .read place (seekOn place depth) else .go (.opened (-1))
  | .opened found => if found = -1 then .go (.ended (-1)) else .go (.walking (found - 1))
  | .ended found =>
    if found = -1 then .go (.judged false) else .read found fun k => .judged (k == .docClose)
  | .judged _ | .lost => .rest

-- A negative number counts from the end.
def readAt (kinds : List Kind) (place : Int) : Option Kind :=
  if 0 ≤ place then kinds[place.toNat]?
  else if 0 ≤ kinds.length + place then kinds[(kinds.length + place).toNat]?
  else none

def step (kinds : List Kind) (skip : SkipSet) (stage : Stage) : Option Stage :=
  match move kinds.length skip stage with
  | .rest => none
  | .go later => some later
  | .read place next => some ((readAt kinds place).elim .lost next)

def Follows (kinds : List Kind) (skip : SkipSet) (stage later : Stage) : Prop :=
  step kinds skip stage = some later

abbrev Leads (kinds : List Kind) (skip : SkipSet) : Stage → Stage → Prop :=
  Relation.ReflTransGen (Follows kinds skip)

theorem walkOn_cases (skip : SkipSet) (cursor : Int) (k : Kind) :
    walkOn skip cursor k = .closing cursor ∨ walkOn skip cursor k = .walking (cursor - 1) ∨
      walkOn skip cursor k = .ended cursor := by
  unfold walkOn
  split
  · exact .inl rfl
  · split
    · exact .inr (.inl rfl)
    · exact .inr (.inr rfl)

theorem seekOn_cases (place depth : Int) (k : Kind) :
    seekOn place depth k = .opened place ∨
      ∃ inner, seekOn place depth k = .seeking (place - 1) inner := by
  unfold seekOn
  split
  · exact .inr ⟨_, rfl⟩
  · split
    · exact .inl rfl
    · exact .inr ⟨_, rfl⟩
  · exact .inr ⟨_, rfl⟩

section Safety

-- What every place that a move asks for and every stage that it goes to has in common.
def Move.Meets (reads : Int → Prop) (leads : Stage → Prop) : Move → Prop
  | .rest => True
  | .go later => leads later
  | .read place next => reads place ∧ ∀ k, leads (next k)

theorem Move.Meets.follows {kinds : List Kind} {skip : SkipSet} {stage later : Stage}
    {reads : Int → Prop} {leads : Stage → Prop}
    (meets : (move kinds.length skip stage).Meets reads leads)
    (lost : ∀ place, reads place → readAt kinds place = none → leads .lost)
    (follows : Follows kinds skip stage later) : leads later := by
  unfold Follows step at follows
  cases moves : move kinds.length skip stage with
  | rest => simp [moves] at follows
  | go next =>
    simp only [moves, Option.some.injEq] at follows
    simpa [moves, Meets, follows] using meets
  | read place next =>
    rw [moves] at meets
    simp only [moves, Option.some.injEq] at follows
    subst follows
    cases here : readAt kinds place with
    | none => exact lost place meets.1 here
    | some k => exact meets.2 k

-- The places that a search from `start` may ask for.
def InReach (start : Int) (size : Nat) (place : Int) : Prop := 0 ≤ place ∧ place < min start size

-- The numbers of a stage lie in reach or right before the stream.
def Inside (start : Int) (size : Nat) : Stage → Prop
  | .called place => place = start
  | .walking place | .seeking place _ | .opened place | .ended place =>
    place = -1 ∨ InReach start size place
  | .closing stop => InReach start size stop
  | .judged _ => True
  | .lost => False

theorem inside_walkOn {start cursor : Int} {size : Nat} (within : InReach start size cursor)
    (skip : SkipSet) (k : Kind) : Inside start size (walkOn skip cursor k) := by
  rcases walkOn_cases skip cursor k with same | same | same
  · rw [same]
    exact within
  · rw [same]
    simp only [Inside, InReach] at within ⊢
    omega
  · rw [same]
    exact .inr within

theorem inside_seekOn {start place : Int} {size : Nat} (within : InReach start size place)
    (depth : Int) (k : Kind) : Inside start size (seekOn place depth k) := by
  rcases seekOn_cases place depth k with same | ⟨inner, same⟩
  · rw [same]
    exact .inr within
  · rw [same]
    simp only [Inside, InReach] at within ⊢
    omega

theorem Inside.move {start : Int} {size : Nat} {stage : Stage} (inside : Inside start size stage)
    (skip : SkipSet) : (move size skip stage).Meets (InReach start size) (Inside start size) := by
  cases stage with
  | called place =>
    obtain rfl : place = start := inside
    simp only [Indexed.move]
    split
    · exact .inl rfl
    · simp only [Move.Meets, Inside, InReach]
      omega
  | walking cursor =>
    simp only [Indexed.move]
    split
    next nonneg =>
      have within := inside.resolve_left (by omega)
      exact ⟨within, inside_walkOn within skip⟩
    next => exact .inl rfl
  | closing stop =>
    simp only [Indexed.move]
    split
    · exact .inl rfl
    · exact .inr inside
  | seeking place depth =>
    simp only [Indexed.move]
    split
    next nonneg =>
      have within := inside.resolve_left (by omega)
      exact ⟨within, inside_seekOn within depth⟩
    next => exact .inl rfl
  | opened found =>
    simp only [Indexed.move]
    split
    · exact .inl rfl
    next here =>
      have within := inside.resolve_left here
      simp only [Move.Meets, Inside, InReach] at within ⊢
      omega
  | ended found =>
    simp only [Indexed.move]
    split
    · trivial
    next here => exact ⟨inside.resolve_left here, fun _ => trivial⟩
  | judged _ => trivial
  | lost => trivial

theorem readAt_of_lt {kinds : List Kind} {place : Int} (nonneg : 0 ≤ place)
    (below : place < kinds.length) : readAt kinds place ≠ none := by
  have short : place.toNat < kinds.length := by omega
  simp [readAt, nonneg, short]

variable {kinds : List Kind} {skip : SkipSet}

theorem inside_of_leads {start : Int} {stage : Stage}
    (leads : Leads kinds skip (.called start) stage) : Inside start kinds.length stage := by
  induction leads with
  | refl => rfl
  | tail _ follows ih =>
    refine (ih.move skip).follows ?_ follows
    intro place within nothing
    exact absurd nothing (readAt_of_lt within.1 (by have := within.2; omega))

theorem inReach_of_read {start place : Int} {stage : Stage} {next : Kind → Stage}
    (leads : Leads kinds skip (.called start) stage)
    (reads : move kinds.length skip stage = .read place next) :
    InReach start kinds.length place := by
  have meets := (inside_of_leads leads).move skip
  rw [reads] at meets
  exact meets.1

end Safety

section Progress

-- What a search can come to after `cursor` was its place outside all blocks.
def Past (cursor : Int) : Stage → Prop
  | .called _ => False
  | .walking place => place < cursor
  | .closing place | .seeking place _ => place ≤ cursor
  | .opened place => place = -1 ∨ place ≤ cursor
  | .ended _ | .judged _ | .lost => True

theorem past_seekOn {cursor place : Int} (below : place ≤ cursor) (depth : Int) (k : Kind) :
    Past cursor (seekOn place depth k) := by
  rcases seekOn_cases place depth k with same | ⟨inner, same⟩
  · rw [same]
    exact .inr below
  · rw [same]
    simp only [Past]
    omega

theorem past_walkOn {cursor place : Int} (below : place ≤ cursor) (skip : SkipSet) (k : Kind) :
    Past cursor (walkOn skip place k) := by
  rcases walkOn_cases skip place k with same | same | same
  · rw [same]
    exact below
  · rw [same]
    simp only [Past]
    omega
  · rw [same]
    trivial

theorem past_walking {cursor place : Int} (below : place ≤ cursor) (size : Nat) (skip : SkipSet) :
    (move size skip (.walking place)).Meets (fun _ => True) (Past cursor) := by
  simp only [move]
  split
  · exact ⟨trivial, past_walkOn below skip⟩
  · trivial

theorem Past.move {cursor : Int} {stage : Stage} (past : Past cursor stage) (size : Nat)
    (skip : SkipSet) : (move size skip stage).Meets (fun _ => True) (Past cursor) := by
  cases stage with
  | called start => exact past.elim
  | walking place => exact past_walking (Int.le_of_lt past) size skip
  | closing stop =>
    simp only [Indexed.move]
    split
    · exact .inl rfl
    · exact past
  | seeking place depth =>
    simp only [Indexed.move]
    split
    · exact ⟨trivial, past_seekOn past depth⟩
    · exact .inl rfl
  | opened found =>
    simp only [Indexed.move]
    split
    · trivial
    next here =>
      have below := past.resolve_left here
      simp only [Move.Meets, Past]
      omega
  | ended found =>
    simp only [Indexed.move]
    split
    · trivial
    · exact ⟨trivial, fun _ => trivial⟩
  | judged _ => trivial
  | lost => trivial

variable {kinds : List Kind} {skip : SkipSet}

theorem past_of_transGen {cursor : Int} {stage : Stage}
    (leads : Relation.TransGen (Follows kinds skip) (.walking cursor) stage) :
    Past cursor stage := by
  induction leads with
  | single follows =>
    have first := past_walking (Int.le_refl cursor) kinds.length skip
    exact first.follows (fun _ _ _ => trivial) follows
  | tail _ follows ih => exact (ih.move kinds.length skip).follows (fun _ _ _ => trivial) follows

end Progress

section Answers

variable {kinds : List Kind} {skip : SkipSet}

theorem leads_go {stage later : Stage} (goes : move kinds.length skip stage = .go later) :
    Leads kinds skip stage later :=
  .single (by simp [Follows, step, goes])

theorem leads_read {stage : Stage} {place : Int} {next : Kind → Stage} {k : Kind}
    (reads : move kinds.length skip stage = .read place next) (here : readAt kinds place = some k) :
    Leads kinds skip stage (next k) :=
  .single (by simp [Follows, step, reads, here])

theorem readAt_natCast (kinds : List Kind) (place : Nat) : readAt kinds place = kinds[place]? := by
  simp [readAt]

theorem seekOn_plain (place depth : Int) {k : Kind} (notOpen : k ≠ .attrOpen)
    (notClose : k ≠ .attrClose) : seekOn place depth k = .seeking (place - 1) depth := by
  cases k <;> first | rfl | contradiction

-- As in a search on lists, `before` holds the kinds before a place, nearest first.
section Kind

variable {k : Kind} {before rest : List Kind} (split : kinds = (k :: before).reverse ++ rest)
include split

theorem split_further : kinds = before.reverse ++ k :: rest := by
  simpa using split

theorem readAt_nearest : readAt kinds before.length = some k := by
  rw [readAt_natCast]
  simp [split]

theorem leads_walkOn (skip : SkipSet) :
    Leads kinds skip (.walking before.length) (walkOn skip before.length k) :=
  leads_read (by simp [move]) (readAt_nearest split)

theorem leads_seekOn (skip : SkipSet) (depth : Int) :
    Leads kinds skip (.seeking before.length depth) (seekOn before.length depth k) :=
  leads_read (by simp [move]) (readAt_nearest split)

end Kind

-- The number of the nearest of the kinds; of none it is -1.
def nearest (before : List Kind) : Int := before.length - 1

@[simp]
theorem nearest_cons (k : Kind) (before : List Kind) : nearest (k :: before) = before.length := by
  simp [nearest]

theorem leads_opened (skip : SkipSet) (depth : Int) {before rest : List Kind}
    (split : kinds = before.reverse ++ rest) :
    Leads kinds skip (.seeking (nearest before) depth)
      (.opened (numberOf (openerFrom depth before))) := by
  induction before generalizing depth rest with
  | nil => exact leads_go rfl
  | cons k before ih =>
    have further := split_further split
    rw [nearest_cons]
    refine (leads_seekOn split skip depth).trans ?_
    by_cases opens : k = .attrOpen
    · subst opens
      by_cases outermost : depth - 1 = 0
      · simp only [seekOn, openerFrom, outermost, if_true]
        exact .refl
      · simp only [seekOn, openerFrom, outermost, if_false]
        exact ih (depth - 1) further
    · by_cases closes : k = .attrClose
      · subst closes
        exact ih (depth + 1) further
      · rw [seekOn_plain _ _ opens closes, openerFrom_plain _ opens closes]
        exact ih depth further

-- How a search from inside `depth` blocks goes on.
def resume (before : List Kind) : Nat → Stage
  | 0 => .walking (nearest before)
  | depth + 1 => .seeking (nearest before) (depth + 1)

-- The search for the opener reads the closer once more.
theorem leads_into {before rest : List Kind}
    (split : kinds = (.attrClose :: before).reverse ++ rest) (skip : SkipSet) :
    Leads kinds skip (.closing before.length) (resume before 1) := by
  have inside : ¬((before.length : Int) < 0 ∨ (kinds.length : Int) ≤ before.length) := by
    simp only [split, List.length_append, List.length_reverse, List.length_cons]
    omega
  have enters : Leads kinds skip (.closing before.length) (.seeking before.length 0) :=
    leads_go (by simp only [move, if_neg inside])
  exact enters.trans (leads_seekOn split skip 0)

theorem leads_out {before rest : List Kind}
    (split : kinds = (.attrOpen :: before).reverse ++ rest) (skip : SkipSet) (depth : Nat) :
    Leads kinds skip (.seeking before.length (depth + 1)) (resume before depth) := by
  have reads := leads_seekOn split skip (depth + 1)
  cases depth with
  | zero =>
    have known : (before.length : Int) ≠ -1 := by omega
    have leaves : Leads kinds skip (.opened before.length) (.walking (before.length - 1)) :=
      leads_go (by rw [move, if_neg known])
    exact reads.trans leaves
  | succ depth =>
    have inside : ((depth + 1 : Nat) : Int) + 1 - 1 ≠ 0 := by omega
    have outer : ((depth + 1 : Nat) : Int) + 1 - 1 = depth + 1 := by omega
    rw [seekOn, if_neg inside, outer] at reads
    exact reads

theorem leads_ended (depth : Nat) {before rest : List Kind}
    (split : kinds = before.reverse ++ rest) :
    Leads kinds skip (resume before depth)
      (.ended (numberOf (significantFrom skip depth before))) := by
  fun_induction significantFrom skip depth before generalizing rest with
  | case1 depth =>
    cases depth with
    | zero => exact leads_go rfl
    | succ depth => exact (leads_go rfl).trans (leads_go rfl)
  | case2 before ih =>
    rw [resume, nearest_cons]
    exact (leads_walkOn split skip).trans ((leads_into split skip).trans (ih (split_further split)))
  | case3 k before notClose has ih =>
    rw [resume, nearest_cons]
    refine (leads_walkOn split skip).trans ?_
    simp only [walkOn, notClose, has, if_true, if_false]
    exact ih (split_further split)
  | case4 k before notClose has =>
    have stops : walkOn skip before.length k = .ended before.length := by
      simp [walkOn, notClose, has]
    rw [resume, nearest_cons]
    exact stops ▸ leads_walkOn split skip
  | case5 depth before ih =>
    rw [resume, nearest_cons]
    exact (leads_seekOn split skip _).trans (ih (split_further split))
  | case6 depth before ih =>
    rw [resume, nearest_cons]
    exact (leads_out split skip depth).trans (ih (split_further split))
  | case7 depth k before notClose notOpen ih =>
    rw [resume, nearest_cons]
    refine (leads_seekOn split skip _).trans ?_
    rw [seekOn_plain _ _ notOpen notClose]
    exact ih (split_further split)

theorem leads_closing (kinds : List Kind) (skip : SkipSet) (stop : Int) :
    Leads kinds skip (.closing stop) (.opened (numberOf (opener? kinds stop))) := by
  by_cases outside : stop < 0 ∨ (kinds.length : Int) ≤ stop
  · rw [opener?, if_pos outside]
    exact leads_go (if_pos outside)
  · have enters : Leads kinds skip (.closing stop) (.seeking stop 0) := leads_go (if_neg outside)
    have split : kinds = (kinds.take (stop.toNat + 1)).reverse.reverse ++
        kinds.drop (stop.toNat + 1) := by
      simp
    have first : stop = nearest (kinds.take (stop.toNat + 1)).reverse := by
      simp only [nearest, List.length_reverse, List.length_take]
      omega
    have seeks := leads_opened skip 0 split
    rw [← first] at seeks
    rw [opener?, if_neg outside]
    exact enters.trans seeks

theorem leads_called (kinds : List Kind) (skip : SkipSet) (start : Int) :
    Leads kinds skip (.called start) (.ended (numberOf (significant? kinds start skip))) := by
  by_cases outside : start ≤ 0 ∨ (kinds.length : Int) < start
  · rw [significant?_outside outside]
    exact leads_go (if_pos outside)
  · have enters : Leads kinds skip (.called start) (.walking (start - 1)) :=
      leads_go (if_neg outside)
    have split : kinds = (kinds.take start.toNat).reverse.reverse ++ kinds.drop start.toNat := by
      simp
    have first : start - 1 = nearest (kinds.take start.toNat).reverse := by
      simp only [nearest, List.length_reverse, List.length_take]
      omega
    rw [significant?, if_neg outside]
    rw [first] at enters
    exact enters.trans (leads_ended 0 split)

end Answers

section Ending

variable {kinds : List Kind} {skip : SkipSet}

theorem follows_unique {stage later other : Stage} (follows : Follows kinds skip stage later)
    (otherFollows : Follows kinds skip stage other) : later = other :=
  Option.some.inj (follows.symm.trans otherFollows)

theorem not_follows_judged (documented : Bool) (later : Stage) :
    ¬ Follows kinds skip (.judged documented) later := by
  simp [Follows, step, move]

theorem leads_judged {stage later : Stage} {documented : Bool}
    (judges : Leads kinds skip stage (.judged documented)) (leads : Leads kinds skip stage later) :
    Leads kinds skip later (.judged documented) := by
  have unique : Relator.RightUnique (Follows kinds skip) := fun _ _ _ => follows_unique
  rcases Relation.ReflTransGen.total_of_right_unique unique leads judges with rest | beyond
  · exact rest
  · cases beyond using Relation.ReflTransGen.head_induction_on with
    | refl => exact .refl
    | head follows _ => exact absurd follows (not_follows_judged documented _)

-- The run is caught at its stage of number `n`, wherever it started.
theorem not_endless {stage : Stage} {documented : Bool}
    (judges : Leads kinds skip stage (.judged documented)) (run : Nat → Stage) (n : Nat)
    (here : run n = stage) : ¬ ∀ m, Follows kinds skip (run m) (run (m + 1)) := by
  intro endless
  induction judges using Relation.ReflTransGen.head_induction_on generalizing n with
  | refl => exact not_follows_judged documented _ (here ▸ endless n)
  | head follows _ ih => exact ih (n + 1) (follows_unique (here ▸ endless n) follows)

end Ending

end DocGuard.Lookback.Indexed
