import BrokerVault.CommandLine.Machine

/-! The program. -/

def main (arguments : List String) : IO UInt32 := do
  let host ← BrokerVault.CommandLine.Machine.host
  return UInt32.ofNat (← BrokerVault.CommandLine.run host arguments)
