/-!
# Combining marks

Rows in the order of code points: a distance in base 36, and `M` for marks or `N` for all else.
-/

set_option autoImplicit false

namespace QueryBridge.Unicode.Mark

/-- The rows of the general category Mark, in pieces. -/
def rows : List String := [
  "0N lcM 34N 7nM 7N 7bM 19N 1M 1N 1M 2N 1M 2N 1M 1N 20M bN 1cM lN gM 1N 2tM 7N 2M 6N 2M 2N 1M ",
  "4N zM 1N uM rN 2jM bN 1mM 9N 9M 1N oM 4N 1M 9N 1M 3N 1M 5N 17M 3N 1nM 9N 16M oN 1M xN 1iM ",
  "3N 1M iN 1M 7N aM 2N tM 3N 1kM 1N 1M 7N 2M 2N 2M 3N 9M 1N aM 2N qM 1N 2M 3N 1kM 1N 1M 5N 4M ",
  "2N 2M 3N 3M 1N uM 2N 3M 1N bM 3N 1kM 1N 1M 8N 1M 3N 1M 3N kM 2N mM 6N 1M 3N 1kM 1N 1M 7N 2M ",
  "2N 2M 3N 7M 3N aM 2N uM 1N 1nM 5N 3M 3N 1M 4N 9M 1N 14M 5N 1jM 1N 1M 7N 1M 3N 1M 4N 7M 2N ",
  "bM 2N tM 3N 1kM 1N 1M 7N 1M 3N 1M 4N 7M 2N bM 2N fM 1N cM 4N 1jM 2N 1M 7N 1M 3N 1M 4N 9M 1N ",
  "aM 2N tM 3N 1yM 1N 4M 6N 1M 1N 1M 8N iM 2N 1pM 1N 2M 7N cM 8N 2qM 1N 2M 9N bM 7N 21M 2N rM ",
  "1N 1M 1N 1M 1N 4M 2N 1dM kN 1M 2N 5M bN 1M 10N 9M 1N 2sM kN nM 4N 4M 3N 1M 3N 2M 7N 3M 4N ",
  "dM cN 1M 1N aM 4N jjM 3N qaM 4N sM 3N tM 2N uM 2N 1sM wN 9M 1N 19M 3N 1M 1N 39M 2N yM 1N ",
  "3aM cN 4M cN 63M 5N 1lM aN 1M tN 2M 1N 1cM 1aN 2M cN kM 5N 1bM hN 12M 9N cM 3N uM dN 1kM eN ",
  "1cM kN 48M 3N 1M lN 4M 1N 6M 1N 2M 3N 5iM 1sN k0M xN 2daM 3N 3xM 1N 2oM wN feM 6N 2xM 2N ",
  "n9wM 4N 1M aN wM 2N 28M 2N 7kM 1N 3M 1N 4M 1N nM 5N 4M 1N 2bM 2N 1eM iN qM iN dM 1N 12M 8N ",
  "pM dN 18M 4N 1bM eN 10M 1N 1vM eN cM 1N 8M 2N 19M 3N 1eM 1N 1M 3N 2M 2N 5M 2N 1M 1N 15M 5N ",
  "5M 2N 6kM 8N 1M 2N fn4M 1N khM gN gM gN r1M 1N 6aM 1N 45M 5N 1aeM 3N 1M 2N 5M 4N 14M 3N 4M ",
  "1N 4lM 2N fxM 4N 1tM 5N 8tM 2N 25M 6N 1yM bN 1dM 4N 3eM 3N 1hM fN 15M 1N 2M 2N aM 4N 19M bN ",
  "7M 1N 1pM 3N 10M eN gM 2N 18M 1N cM 3N 1cM eN 8M 4N 1M 2N 2kM cN 6M 1N 2M 1N 4dM cN lM 4N ",
  "1jM 2N 1M 7N 2M 2N 2M 3N 9M 1N aM 2N 2M 7N 3M 5N 1vM 9N 1M 1N 2M 1N 1M 4N 1M 5N 1M 1N eM 2N ",
  "2aM iN nM 1N 29M kN 6jM 7N 2M 9N rM 2N 2aM hN 2yM dN 2tM fN 74M fN 6tM 6N 1M 2N 2M 4N 1M 1N ",
  "1M 2N 3xM 7N 2M 7N 3M 1N sM aN 14M 7N 1M 4N 8M 1N 9M bN 1aM gN 5iM 8N 5jM 8N 1M 8N 2aM mN ",
  "1M eN 3eM 6N 3M 1N 1M 2N 1M 7N 1M 1N 1uM 5N 1M 2N 1M 5N 9nM 4N 9M 2N 1M 1N 1cM 7N 3M 5N nM ",
  "1N 44lM 1N 6M fN 8ugM iN 1xcM 5N 1nM 7N t4M 1N 1M 1jN 7M 4N 29M 1N bM 2N f57M 2N 3mpM 1aN ",
  "2M nN f2M 5N 3M 6N 8M 8N 2M 7N uM 4N 44M 3N 1izM 1jN 4M 1eN 8M 1N eM 1N mM 5N 1M fN 11sM 7N ",
  "1M hN 2M 7N 1M 2N 1M 5N 2sM 1N 4gM 7N afM 1N 1pM 4N e4M 4N 72M 2N 6rM 1N 2M 1N 7M 2N 5M 1N ",
  "d6M 7N 31M 7N gzhxM 6oN "]

end QueryBridge.Unicode.Mark
