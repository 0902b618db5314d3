import RabbitRemote.Rabbit
import RabbitRemote.Settings

namespace RabbitRemote.Settings

def checkCredentials (settings : Settings) : Except Failure Unit :=
  if settings.identity.mac.isEmpty || settings.identity.token.isEmpty then
    .error (.missingCredentials settings.path.text)
  else .ok ()

-- The rabbit that the settings describe. Its credentials are looked at before its charset.
def rabbit (settings : Settings) (others : Charset.Registry) : Except Failure Rabbit := do
  settings.checkCredentials
  let codec ← Codec.named others settings.charset
  return .new settings.identity codec settings.address

end RabbitRemote.Settings
