import HookKeeper.Yaml.Layout
import Mathlib.Logic.Basic

/-!
# What a scan keeps

A key is recognised only at the colon after it, and its tokens are put before
it; so a token counts as scanned once no key can start before its end.  Every
step of a scan keeps such tokens, and they are the first ones of its result,
whatever follows in the text.  More steps than are needed change nothing.
-/

namespace HookKeeper.Yaml

/-- Every result of a mapping that succeeds comes from a member. -/
theorem exists_of_mem_mapM
    {α β : Type}
    {f : α → Option β}
    {members : List α}
    {results : List β}
    (mapped : members.mapM f = some results)
    {result : β}
    (found : result ∈ results) :
    ∃ member ∈ members, f member = some result := by
  induction members generalizing results with
  | nil =>
      rw [List.mapM_nil] at mapped
      cases mapped
      exact absurd found List.not_mem_nil
  | cons first members ih =>
      rw [List.mapM_cons] at mapped
      rcases Option.bind_eq_some_iff.1 mapped with ⟨here, image, more⟩
      rcases Option.bind_eq_some_iff.1 more with ⟨others, later, made⟩
      cases made
      rcases List.mem_cons.1 found with rfl | further
      · exact ⟨first, List.mem_cons_self, image⟩
      · rcases ih later further with ⟨member, listed, same⟩
        exact ⟨member, List.mem_cons_of_mem first listed, same⟩

namespace Layout

/-- Tokens come first in a scan, and no key can be put in among them. -/
structure Keeps (front : List Token) (layout : Layout) : Prop where
  scanned : ∃ later, layout.newestFirst = later ++ front.reverse
  counted : layout.count = layout.newestFirst.length
  innermost :
    ∀ candidate ∈ layout.candidate, front.length ≤ candidate.position
  around :
    ∀ place ∈ layout.outerCandidates,
      ∀ candidate ∈ place, front.length ≤ candidate.position

namespace Keeps

variable {front : List Token} {layout after : Layout}

theorem within (keeps : layout.Keeps front) : front.length ≤ layout.count := by
  rcases keeps.scanned with ⟨later, tokens⟩
  rw [keeps.counted, tokens, List.length_append, List.length_reverse]
  exact Nat.le_add_left _ _

theorem moveTo
    (keeps : layout.Keeps front)
    (cursor : Cursor) : (layout.moveTo cursor).Keeps front :=
  ⟨keeps.scanned, keeps.counted, keeps.innermost, keeps.around⟩

theorem push
    (keeps : layout.Keeps front)
    (token : Token) : (layout.push token).Keeps front := by
  rcases keeps.scanned with ⟨later, tokens⟩
  refine ⟨⟨token :: later, congrArg (token :: ·) tokens⟩, ?_,
    keeps.innermost, keeps.around⟩
  exact congrArg (· + 1) keeps.counted

/-- A token is put in after those that are kept. -/
theorem insert
    (keeps : layout.Keeps front)
    {position : Nat}
    (later : front.length ≤ position)
    (token : Token) :
    (layout.insert position token).Keeps front := by
  rcases keeps.scanned with ⟨others, tokens⟩
  have counted := keeps.counted
  rw [tokens, List.length_append, List.length_reverse] at counted
  have inside : layout.count - position ≤ others.length := by omega
  refine ⟨⟨others.take (layout.count - position) ++
      token :: others.drop (layout.count - position), ?_⟩, ?_,
    keeps.innermost, keeps.around⟩
  · simp only [Layout.insert, tokens]
    rw [List.take_append_of_le_length inside,
      List.drop_append_of_le_length inside, List.append_assoc]
    rfl
  · simp only [Layout.insert, List.length_append, List.length_cons,
      List.length_take, List.length_drop, tokens, List.length_reverse]
    omega

theorem closeFrom
    (keeps : layout.Keeps front)
    (around : List Int)
    (column : Int) :
    (Layout.closeFrom around column layout).Keeps front := by
  induction around generalizing layout with
  | nil => exact keeps
  | cons next more ih =>
      rw [Layout.closeFrom]
      split
      · have pushed := keeps.push .blockEnd
        exact ih ⟨pushed.scanned, pushed.counted, pushed.innermost,
          pushed.around⟩
      · exact keeps

theorem unroll
    (keeps : layout.Keeps front)
    (column : Int) : (layout.unroll column).Keeps front := by
  rw [Layout.unroll]
  split
  · exact keeps
  · exact keeps.closeFrom layout.outer column

theorem roll
    (keeps : layout.Keeps front)
    {position : Nat}
    (later : front.length ≤ position)
    (column : Int)
    (token : Token) :
    (layout.roll column position token).Keeps front := by
  rw [Layout.roll]
  split
  · exact keeps
  · split
    · have inserted := keeps.insert later token
      exact ⟨inserted.scanned, inserted.counted, inserted.innermost,
        inserted.around⟩
    · exact keeps

theorem dropCandidate?
    (keeps : layout.Keeps front)
    (dropped : layout.dropCandidate? = some after) : after.Keeps front := by
  rw [Layout.dropCandidate?] at dropped
  split at dropped
  · split at dropped
    · exact absurd dropped nofun
    · cases dropped
      exact ⟨keeps.scanned, keeps.counted, nofun, keeps.around⟩
  · cases dropped
    exact keeps

theorem saveCandidate?
    (keeps : layout.Keeps front)
    (saved : layout.saveCandidate? = some after) : after.Keeps front := by
  rw [Layout.saveCandidate?] at saved
  split at saved
  · rcases Option.bind_eq_some_iff.1 saved with ⟨middle, dropped, made⟩
    have kept := keeps.dropCandidate? dropped
    cases made
    refine ⟨kept.scanned, kept.counted, fun candidate member => ?_,
      kept.around⟩
    cases member
    exact kept.within
  · cases saved
    exact keeps

/-- Dropping candidates that lie too far back leaves no new ones. -/
theorem refreshCandidates?
    (keeps : layout.Keeps front)
    (refreshed : layout.refreshCandidates? = some after) :
    after.Keeps front := by
  have known {found kept : Option Candidate}
      (fresh : refresh? layout.cursor found = some kept) :
      ∀ candidate ∈ kept, candidate ∈ found := by
    intro candidate member
    rw [refresh?.eq_def] at fresh
    split at fresh
    · cases fresh
      exact member
    · split at fresh
      · split at fresh <;> cases fresh
        exact absurd member nofun
      · cases fresh
        exact member
  rcases Option.bind_eq_some_iff.1 refreshed with ⟨places, mapped, more⟩
  rcases Option.bind_eq_some_iff.1 more with ⟨candidate, fresh, made⟩
  cases made
  refine ⟨keeps.scanned, keeps.counted, fun found member =>
    keeps.innermost found (known fresh found member), ?_⟩
  intro place placed found member
  rcases exists_of_mem_mapM mapped placed with ⟨before, listed, same⟩
  exact keeps.around before listed found (known same found member)

theorem skipSpace
    (keeps : layout.Keeps front)
    (fuel : Nat) :
    (Layout.skipSpace fuel layout).Keeps front := by
  induction fuel generalizing layout with
  | zero => exact keeps
  | succ fuel ih =>
      rw [Layout.skipSpace]
      split <;> split
      all_goals
        first
        | exact ih ⟨keeps.scanned, keeps.counted, keeps.innermost,
            keeps.around⟩
        | exact keeps.moveTo _

theorem closeAll?
    (keeps : layout.Keeps front)
    (closed : layout.closeAll? = some after) : after.Keeps front := by
  rcases Option.map_eq_some_iff.1 closed with ⟨middle, dropped, made⟩
  have kept := (keeps.unroll (-1)).dropCandidate? dropped
  cases made
  exact ⟨kept.scanned, kept.counted, kept.innermost, kept.around⟩

/-! ## Tokens -/

theorem leaf?
    (keeps : layout.Keeps front)
    {token : Token}
    {cursor : Cursor}
    (found : layout.leaf? token cursor = some after) : after.Keeps front := by
  rcases Option.map_eq_some_iff.1 found with ⟨middle, saved, made⟩
  have kept := (keeps.saveCandidate? saved).push token
  cases made
  exact ⟨kept.scanned, kept.counted, kept.innermost, kept.around⟩

theorem openFlow?
    (keeps : layout.Keeps front)
    {token : Token}
    (found : layout.openFlow? token = some after) : after.Keeps front := by
  rcases Option.map_eq_some_iff.1 found with ⟨middle, saved, made⟩
  have kept := (keeps.saveCandidate? saved).push token
  cases made
  exact ⟨kept.scanned, kept.counted, nofun,
    List.forall_mem_cons.2 ⟨kept.innermost, kept.around⟩⟩

theorem closeFlow?
    (keeps : layout.Keeps front)
    {token : Token}
    (found : layout.closeFlow? token = some after) : after.Keeps front := by
  rcases Option.map_eq_some_iff.1 found with ⟨middle, dropped, made⟩
  have kept := (keeps.dropCandidate? dropped).push token
  subst made
  dsimp only
  split
  · exact ⟨kept.scanned, kept.counted, kept.innermost, kept.around⟩
  next candidate more outer =>
    have places := List.forall_mem_cons.1 (outer ▸ kept.around)
    exact ⟨kept.scanned, kept.counted, places.1, places.2⟩

theorem flowEntry?
    (keeps : layout.Keeps front)
    (found : layout.flowEntry? = some after) : after.Keeps front := by
  rcases Option.map_eq_some_iff.1 found with ⟨middle, dropped, made⟩
  have kept := (keeps.dropCandidate? dropped).push .flowEntry
  cases made
  exact ⟨kept.scanned, kept.counted, kept.innermost, kept.around⟩

theorem rollHere?
    (keeps : layout.Keeps front)
    {token : Token}
    (found : layout.rollHere? token = some after) : after.Keeps front := by
  rw [Layout.rollHere?] at found
  split at found
  · cases found
    exact keeps
  · split at found
    · cases found
      exact keeps.roll keeps.within _ token
    · exact absurd found nofun

theorem blockEntry?
    (keeps : layout.Keeps front)
    (found : layout.blockEntry? = some after) : after.Keeps front := by
  rcases Option.bind_eq_some_iff.1 found with ⟨rolled, here, more⟩
  rcases Option.bind_eq_some_iff.1 more with ⟨middle, dropped, made⟩
  have kept := ((keeps.rollHere? here).dropCandidate? dropped).push .blockEntry
  cases made
  exact ⟨kept.scanned, kept.counted, kept.innermost, kept.around⟩

theorem key?
    (keeps : layout.Keeps front)
    (found : layout.key? = some after) : after.Keeps front := by
  rcases Option.bind_eq_some_iff.1 found with ⟨rolled, here, more⟩
  rcases Option.bind_eq_some_iff.1 more with ⟨middle, dropped, made⟩
  have kept := ((keeps.rollHere? here).dropCandidate? dropped).push .key
  cases made
  exact ⟨kept.scanned, kept.counted, kept.innermost, kept.around⟩

theorem value?
    (keeps : layout.Keeps front)
    (found : layout.value? = some after) : after.Keeps front := by
  rw [Layout.value?] at found
  split at found
  next candidate same =>
    have later := keeps.innermost candidate same
    have kept := ((keeps.insert later .key).roll later candidate.column
      .blockMappingStart).push .value
    cases found
    exact ⟨kept.scanned, kept.counted, nofun, kept.around⟩
  · rcases Option.bind_eq_some_iff.1 found with ⟨rolled, here, made⟩
    have kept := (keeps.rollHere? here).push .value
    cases made
    exact ⟨kept.scanned, kept.counted, kept.innermost, kept.around⟩

theorem blockScalar?
    (keeps : layout.Keeps front)
    {literal : Bool}
    (found : layout.blockScalar? literal = some after) : after.Keeps front := by
  rcases Option.bind_eq_some_iff.1 found with ⟨middle, dropped, more⟩
  rcases Option.bind_eq_some_iff.1 more with ⟨⟨text, cursor⟩, -, made⟩
  have kept := (keeps.dropCandidate? dropped).push
    (.scalar (String.ofList text) (if literal then .literal else .folded))
  cases made
  exact ⟨kept.scanned, kept.counted, kept.innermost, kept.around⟩

theorem quotedScalar?
    (keeps : layout.Keeps front)
    {single : Bool}
    (found : layout.quotedScalar? single = some after) : after.Keeps front := by
  rcases Option.bind_eq_some_iff.1 found with ⟨⟨text, cursor⟩, -, made⟩
  exact keeps.leaf? made

theorem plainScalar?
    (keeps : layout.Keeps front)
    (found : layout.plainScalar? = some after) : after.Keeps front := by
  rcases Option.bind_eq_some_iff.1 found with ⟨scanned, -, more⟩
  rcases Option.bind_eq_some_iff.1 more with ⟨middle, leaf, made⟩
  have kept := keeps.leaf? leaf
  cases made
  exact ⟨kept.scanned, kept.counted, kept.innermost, kept.around⟩

/-- A further token keeps what was scanned. -/
theorem token?
    (keeps : layout.Keeps front)
    {first : Char}
    (found : layout.token? first = some after) : after.Keeps front := by
  rw [Layout.token?] at found
  rcases ite_eq_iff.1 found with ⟨-, found⟩ | ⟨-, found⟩
  · rcases Option.bind_eq_some_iff.1 found with ⟨closed, ended, more⟩
    rcases Option.bind_eq_some_iff.1 more with ⟨⟨directive, next⟩, -, made⟩
    cases made
    exact ((keeps.closeAll? ended).push _).moveTo _
  rcases ite_eq_iff.1 found with ⟨-, found⟩ | ⟨-, found⟩
  · rcases Option.map_eq_some_iff.1 found with ⟨closed, ended, rfl⟩
    exact ((keeps.closeAll? ended).push _).moveTo _
  rcases ite_eq_iff.1 found with ⟨-, found⟩ | ⟨-, found⟩
  · rcases Option.map_eq_some_iff.1 found with ⟨closed, ended, rfl⟩
    exact ((keeps.closeAll? ended).push _).moveTo _
  rcases ite_eq_iff.1 found with ⟨-, found⟩ | ⟨-, found⟩
  · exact keeps.openFlow? found
  rcases ite_eq_iff.1 found with ⟨-, found⟩ | ⟨-, found⟩
  · exact keeps.openFlow? found
  rcases ite_eq_iff.1 found with ⟨-, found⟩ | ⟨-, found⟩
  · exact keeps.closeFlow? found
  rcases ite_eq_iff.1 found with ⟨-, found⟩ | ⟨-, found⟩
  · exact keeps.closeFlow? found
  rcases ite_eq_iff.1 found with ⟨-, found⟩ | ⟨-, found⟩
  · exact keeps.flowEntry? found
  rcases ite_eq_iff.1 found with ⟨-, found⟩ | ⟨-, found⟩
  · exact keeps.blockEntry? found
  rcases ite_eq_iff.1 found with ⟨-, found⟩ | ⟨-, found⟩
  · exact keeps.key? found
  rcases ite_eq_iff.1 found with ⟨-, found⟩ | ⟨-, found⟩
  · exact keeps.value? found
  rcases ite_eq_iff.1 found with ⟨-, found⟩ | ⟨-, found⟩
  · rcases Option.bind_eq_some_iff.1 found with ⟨⟨name, next⟩, -, made⟩
    exact keeps.leaf? made
  rcases ite_eq_iff.1 found with ⟨-, found⟩ | ⟨-, found⟩
  · rcases Option.bind_eq_some_iff.1 found with ⟨⟨name, next⟩, -, made⟩
    exact keeps.leaf? made
  rcases ite_eq_iff.1 found with ⟨-, found⟩ | ⟨-, found⟩
  · rcases Option.bind_eq_some_iff.1 found with
      ⟨⟨handle, suffix, next⟩, -, made⟩
    exact keeps.leaf? made
  rcases ite_eq_iff.1 found with ⟨-, found⟩ | ⟨-, found⟩
  · exact keeps.blockScalar? found
  rcases ite_eq_iff.1 found with ⟨-, found⟩ | ⟨-, found⟩
  · exact keeps.blockScalar? found
  rcases ite_eq_iff.1 found with ⟨-, found⟩ | ⟨-, found⟩
  · exact keeps.quotedScalar? found
  rcases ite_eq_iff.1 found with ⟨-, found⟩ | ⟨-, found⟩
  · exact keeps.quotedScalar? found
  rcases ite_eq_iff.1 found with ⟨-, found⟩ | ⟨-, found⟩
  · exact keeps.plainScalar? found
  exact absurd found nofun

/-- What was scanned comes first in the result. -/
theorem scan?
    (keeps : layout.Keeps front)
    {fuel : Nat}
    {tokens : List Token}
    (found : Layout.scan? fuel layout = some tokens) : front <+: tokens := by
  induction fuel generalizing layout with
  | zero => exact absurd found nofun
  | succ fuel ih =>
      rw [Layout.scan?] at found
      rcases Option.bind_eq_some_iff.1 found with ⟨fresh, refreshed, more⟩
      have kept := ((keeps.skipSpace _).refreshCandidates? refreshed).unroll
        fresh.cursor.column
      dsimp only at more
      split at more
      · rcases Option.map_eq_some_iff.1 more with ⟨closed, ended, rfl⟩
        rcases (kept.closeAll? ended).scanned with ⟨later, same⟩
        rw [same, List.reverse_append, List.reverse_reverse]
        exact List.prefix_append front _
      · rcases Option.bind_eq_some_iff.1 more with ⟨next, token, rest⟩
        exact ih (kept.token? token) rest

end Keeps

/-! ## More steps than are needed -/

variable {layout : Layout} {fuel : Nat} {tokens : List Token}

theorem scan?_succ (found : scan? fuel layout = some tokens) :
    scan? (fuel + 1) layout = some tokens := by
  induction fuel generalizing layout with
  | zero => exact absurd found nofun
  | succ fuel ih =>
      rw [scan?] at found ⊢
      rcases Option.bind_eq_some_iff.1 found with ⟨fresh, refreshed, more⟩
      refine Option.bind_eq_some_iff.2 ⟨fresh, refreshed, ?_⟩
      dsimp only at more ⊢
      cases text : (fresh.unroll fresh.cursor.column).cursor.rest with
      | nil =>
          rw [text] at more
          exact more
      | cons first rest =>
          rw [text] at more
          rcases Option.bind_eq_some_iff.1 more with ⟨next, token, others⟩
          exact Option.bind_eq_some_iff.2 ⟨next, token, ih others⟩

theorem scan?_add
    (found : scan? fuel layout = some tokens)
    (more : Nat) :
    scan? (fuel + more) layout = some tokens := by
  induction more with
  | zero => exact found
  | succ more ih => exact scan?_succ ih

end Layout

end HookKeeper.Yaml
