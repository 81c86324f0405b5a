namespace DumpWorkbench.Number

def power (base exponent : Nat) : Nat := Nat.pow base exponent

def words31 : Nat := 2147483648

def words32 : Nat := 4294967296

def words53 : Nat := 9007199254740992

def words63 : Nat := 9223372036854775808

def words64 : Nat := 18446744073709551616

def sum64? (a b : Nat) : Option Nat := if a + b < words64 then some (a + b) else none

end DumpWorkbench.Number
