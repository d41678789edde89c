import MonetaryText.Entry.Edit

/-!
What is done to an entry, one action after the other. An action that breaks off does not end the
session: the next one goes on from what it left.
-/

namespace MonetaryText.Entry

inductive Action where
  | typeText (text : Text)
  | chooseCurrency (code : Option String)
  | chooseLocale (locale : LocaleRef)
  | enterNumber (number : PlainNumber)
  | enterMoney (money : Option Money)
  | clear
  /-- Says whether the currency is only shown, and cannot be chosen. -/
  | fixCurrency (fixed : Bool)

variable {data : LocaleData}

def Action.edit : Action → Edit data Unit
  | .typeText text => Entry.typeText text
  | .chooseCurrency code => Entry.chooseCurrency code
  | .chooseLocale locale => Entry.chooseLocale locale
  | .enterNumber number => Entry.enterNumber number
  | .enterMoney money => Entry.enterMoney money
  | .clear => Entry.clear
  | .fixCurrency fixed => change fun entry => { entry with currencyReadOnly := fixed }

/-- The error of an action, if it breaks off, and the session that it leaves. -/
def Session.perform (session : Session data) (action : Action) :
    Except Error Unit × Session data :=
  action.edit.run session

end MonetaryText.Entry
