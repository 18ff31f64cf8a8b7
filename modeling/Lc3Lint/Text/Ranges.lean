/-! Tables sorted by code point, searched by bisection. -/
namespace Lc3Lint.Text

/-- The last entry of `table` whose start is at most `n`, for a table sorted by `start`. -/
def lastAtMost? {α : Type} (table : Array α) (start : α → Nat) (n : Nat) : Option α :=
  go 0 table.size none
where
  go (lo hi : Nat) (best : Option α) : Option α :=
    if lo < hi then
      match table[(lo + hi) / 2]? with
      | some e =>
        if start e ≤ n then go ((lo + hi) / 2 + 1) hi (some e) else go lo ((lo + hi) / 2) best
      | none => best
    else best
  termination_by hi - lo
  decreasing_by all_goals omega

def inRanges (table : Array (Nat × Nat)) (n : Nat) : Bool :=
  match lastAtMost? table Prod.fst n with
  | some (_, last) => n ≤ last
  | none => false

end Lc3Lint.Text
