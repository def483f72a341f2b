/-!
# The help text

What the help command shows.
-/

set_option autoImplicit false

namespace PathQuery

/-- The lines of the help. -/
def helpLines : List String :=
  ["context: read values from the application context",
   "",
   "  context <path>           evaluate <path> against the application context",
   "  context-window <path>    evaluate <path> against the ambient object",
   "  context-help, context?   show this help",
   "",
   "Both evaluating commands accept call=true to call the resolved value and use",
   "its result. Truthy values are on, true and 1.",
   "",
   "ACCESSING VALUES",
   "  Use :: to access child values (items in a list or entries in a map).",
   "    context characters::10::first_mes",
   "",
   "FILTERING LISTS",
   "  find        the first item whose property matches",
   "  findIndex   the position of the first matching item, or -1",
   "  filter      a list of every matching item",
   "",
   "    context characters(find name eq Seraphina)",
   "    context characters(findIndex name eq Coding Sensei)",
   "    context characters(filter fav eq true)",
   "",
   "  Comparison operations:",
   "    eq    property equals value",
   "    neq   property does not equal value",
   "    lt    property is less than value",
   "    lte   property is less than or equals value",
   "    gt    property is greater than value",
   "    gte   property is greater than or equals value",
   "    in    property is included in value (text in text or item in list)",
   "    nin   property is not included in value",
   "",
   "  The value is read as JSON when it parses (true, 12, \"quoted\", [1,2]) and as",
   "  plain text otherwise. Inside a value write \\( and \\) for parentheses and \\\\",
   "  for a backslash.",
   "",
   "MAP",
   "  Extract one property from every item of a list:",
   "    context characters(map name)",
   "  Map can follow a filter:",
   "    context characters(filter fav eq true)(map name)",
   "",
   "EXAMPLES",
   "  context chatId",
   "      the ID of the active chat",
   "  context characters::5::avatar",
   "      the avatar of the character at index 5 (index starts at 0)",
   "  context characters(find name eq Alice)::avatar",
   "      the avatar of the character named Alice",
   "  context groups(find id eq g1)::members::1",
   "      the second member of group g1",
   "  context-window call=true now",
   "      the current time"]

/-- The help. -/
def helpText : String := String.join (helpLines.map (· ++ "\n"))

end PathQuery
