import Mathlib.Data.List.Infix
import Mathlib.Tactic.Common

/-! Topics of a publish/subscribe bus: levels between slashes, and filters that
match them level by level, `+` one level and a last `#` all that remain. -/

namespace TopicFilter

def levels (topic : String) : List String := (topic.toList.splitOn '/').map String.ofList

theorem levels_append {level : String} (flat : '/' ∉ level.toList) (rest : String) :
    levels (level ++ "/" ++ rest) = level :: levels rest := by
  have split : (level ++ "/" ++ rest).toList = level.toList ++ '/' :: rest.toList := by simp
  rw [levels, split, List.splitOn_append_cons_self_of_not_mem flat, List.map_cons, String.ofList_toList, levels]

inductive FilterLevel
  | exactly (level : String)
  | single
  | multi
  deriving DecidableEq, Repr

def FilterLevel.parse (level : String) : FilterLevel :=
  if level = "+" then .single else if level = "#" then .multi else .exactly level

/-- What `#` stands for may be empty: the filter matches the parent level too. -/
def matchLevels : List FilterLevel → List String → Bool
  | [], [] => true
  | .multi :: _, _ => true
  | .single :: filter, _ :: topic => matchLevels filter topic
  | .exactly level :: filter, first :: topic => level = first && matchLevels filter topic
  | _, _ => false

variable {filter : List FilterLevel} {topic : List String}

@[simp] theorem matchLevels_nil : matchLevels [] topic ↔ topic = [] := by
  cases topic <;> simp [matchLevels]

@[simp] theorem matchLevels_single :
    matchLevels (.single :: filter) topic ↔ ∃ level rest, topic = level :: rest ∧ matchLevels filter rest := by
  cases topic <;> simp [matchLevels]

@[simp] theorem matchLevels_exactly {level : String} :
    matchLevels (.exactly level :: filter) topic ↔ ∃ rest, topic = level :: rest ∧ matchLevels filter rest := by
  cases topic with
  | nil => simp [matchLevels]
  | cons first rest =>
    simp only [matchLevels, Bool.and_eq_true, decide_eq_true_eq, List.cons.injEq]
    constructor
    · rintro ⟨rfl, rest'⟩
      exact ⟨rest, ⟨rfl, rfl⟩, rest'⟩
    · rintro ⟨rest', ⟨rfl, rfl⟩, tail⟩
      exact ⟨rfl, tail⟩

def FilterLevel.isWildcard (level : FilterLevel) : Bool := level = .single || level = .multi

/-- Topics that begin with `$` are kept from filters that begin with a wildcard. -/
def hidden (filter topic : String) : Bool :=
  topic.toList.head? = some '$' && ((levels filter).head?.map FilterLevel.parse).any FilterLevel.isWildcard

def matchesTopic (filter topic : String) : Bool :=
  matchLevels ((levels filter).map FilterLevel.parse) (levels topic) && !hidden filter topic

theorem matchLevels_of_matchesTopic {filter topic : String} (matched : matchesTopic filter topic) :
    matchLevels ((levels filter).map FilterLevel.parse) (levels topic) := by
  simp only [matchesTopic, Bool.and_eq_true] at matched
  exact matched.1

example : matchesTopic "a/+/c/#" "a/b/c" = true ∧ matchesTopic "a/+/c" "a/b//c" = false := by decide

end TopicFilter
