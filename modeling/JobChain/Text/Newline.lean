/-!
# Line ends

A file may end its lines by a carriage return, by a line feed, or by the two together.  Reading a
file as text turns each of the three into a line feed.

* `withLineFeeds`: a text with its line ends made alike.
-/

namespace JobChain.Text

/-- The characters of a text, with every line end made a line feed.  `after` tells that a carriage
return stands just before. -/
def lineFeeds (after : Bool) : List Char → List Char
  | [] => []
  | c :: cs =>
    if c = '\r' then '\n' :: lineFeeds true cs
    else if c = '\n' then if after then lineFeeds false cs else '\n' :: lineFeeds false cs
    else c :: lineFeeds false cs

/-- A text with every line end made a line feed. -/
def withLineFeeds (s : String) : String := String.ofList (lineFeeds false s.toList)

@[simp] theorem lineFeeds_nil (after : Bool) : lineFeeds after [] = [] := rfl

theorem lineFeeds_of_not_mem {cs : List Char} (h : '\r' ∉ cs) : lineFeeds false cs = cs := by
  induction cs with
  | nil => rfl
  | cons c cs ih =>
    obtain ⟨hc, hcs⟩ := not_or.mp (mt List.mem_cons.mpr h)
    unfold lineFeeds
    rw [if_neg (Ne.symm hc), ih hcs]
    split <;> simp [*]

/-- A text without carriage returns stays as it is. -/
theorem withLineFeeds_of_not_mem {s : String} (h : '\r' ∉ s.toList) : withLineFeeds s = s := by
  rw [withLineFeeds, lineFeeds_of_not_mem h, String.ofList_toList]

end JobChain.Text
