namespace PlatformDouble.Logging

/-!
# The hierarchy of loggers

A logger is known by its name, and all names begin with that of the root.  A name
is cut at its dots, from its end to its start; where what is left of it is the
name of a known logger, that logger is above it.

Where a cut leaves no known logger, a dot right before the cut is passed over.  So
`a` is above `a..b` only while there is a logger `a.` between them.
-/

/-- The root of the hierarchy. -/
def rootLogger : String := "telehost"

def gateLogger (gate : String) : String :=
  rootLogger ++ "." ++ gate

def bindingLogger : String := gateLogger "ServiceGate.Binding"

/-- The logger of registrations. -/
def directoryLogger : String := gateLogger "ServiceGate.Directory"

/-- The logger of queries by intent. -/
def resolverLogger : String := gateLogger "ServiceGate.Resolver"

/-- The logger of settings. -/
def configLogger : String := gateLogger "Config"

/-- The logger of holders. -/
def contextLogger : String := gateLogger "ContextGate"

/-- The logger of refused level words. -/
def levelLogger : String := gateLogger "GateLogger"

/-- What is left of a reversed name at the dots where that is known, nearest first. -/
def knownCuts (isKnown : List Char → Bool) : List Char → List (List Char)
  | [] => []
  | [_] => []
  | c :: next :: rest =>
      if c = '.' then
        if isKnown (next :: rest) then
          (next :: rest) :: knownCuts isKnown (next :: rest)
        else
          knownCuts isKnown rest
      else
        knownCuts isKnown (next :: rest)

/-- The known loggers above a logger, nearest first. -/
def loggersAbove (isKnown : String → Bool) (logger : String) : List String :=
  (knownCuts (fun cut => isKnown (String.ofList cut.reverse)) logger.toList.reverse).map
    fun cut => String.ofList cut.reverse

end PlatformDouble.Logging
