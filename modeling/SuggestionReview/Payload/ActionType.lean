import SuggestionReview.Text.Quoted
import SuggestionReview.Basic

namespace SuggestionReview

/-- What a transformation does to a table. A verb that is not known here is kept as it is. -/
inductive ActionType where
  | add
  | average
  | cleanColumnName
  | count
  | countDistinct
  | diff
  | dropDuplicate
  | expandColumn
  | explode
  | filter
  | first
  | group
  | impute
  | join
  | last
  | limit
  | max
  | median
  | min
  | remove
  | reformat
  | scale
  | select
  | shiftDown
  | shiftUp
  | sort
  | sum
  | union
  | updateValue
  | other (name : String)
deriving DecidableEq

namespace ActionType

def known : List (String × ActionType) :=
  [("add", add),
   ("average", average),
   ("clean_column_name", cleanColumnName),
   ("count", count),
   ("count_distinct", countDistinct),
   ("diff", diff),
   ("drop_duplicate", dropDuplicate),
   ("expand_column", expandColumn),
   ("explode", explode),
   ("filter", filter),
   ("first", first),
   ("group", group),
   ("impute", impute),
   ("join", join),
   ("last", last),
   ("limit", limit),
   ("max", max),
   ("median", median),
   ("min", min),
   ("remove", remove),
   ("reformat", reformat),
   ("scale", scale),
   ("select", select),
   ("shift_down", shiftDown),
   ("shift_up", shiftUp),
   ("sort", sort),
   ("sum", sum),
   ("union", union),
   ("update_value", updateValue)]

def ofName (name : String) : ActionType :=
  (Entries.get? known name).getD (other name)

def name : ActionType → String
  | add => "add"
  | average => "average"
  | cleanColumnName => "clean_column_name"
  | count => "count"
  | countDistinct => "count_distinct"
  | diff => "diff"
  | dropDuplicate => "drop_duplicate"
  | expandColumn => "expand_column"
  | explode => "explode"
  | filter => "filter"
  | first => "first"
  | group => "group"
  | impute => "impute"
  | join => "join"
  | last => "last"
  | limit => "limit"
  | max => "max"
  | median => "median"
  | min => "min"
  | remove => "remove"
  | reformat => "reformat"
  | scale => "scale"
  | select => "select"
  | shiftDown => "shift_down"
  | shiftUp => "shift_up"
  | sort => "sort"
  | sum => "sum"
  | union => "union"
  | updateValue => "update_value"
  | other name => name

def isKnown : ActionType → Bool
  | other _ => false
  | _ => true

def describe : ActionType → String
  | add => "Add"
  | average => "Average"
  | cleanColumnName => "CleanColumnName"
  | count => "Count"
  | countDistinct => "CountDistinct"
  | diff => "Diff"
  | dropDuplicate => "DropDuplicate"
  | expandColumn => "ExpandColumn"
  | explode => "Explode"
  | filter => "Filter"
  | first => "First"
  | group => "Group"
  | impute => "Impute"
  | join => "Join"
  | last => "Last"
  | limit => "Limit"
  | max => "Max"
  | median => "Median"
  | min => "Min"
  | remove => "Remove"
  | reformat => "Reformat"
  | scale => "Scale"
  | select => "Select"
  | shiftDown => "ShiftDown"
  | shiftUp => "ShiftUp"
  | sort => "Sort"
  | sum => "Sum"
  | union => "Union"
  | updateValue => "UpdateValue"
  | other name => "Other(" ++ Text.quoted name ++ ")"

end ActionType

end SuggestionReview
